import ChatDice.Proofs.Dice.Extremes
import ChatDice.Proofs.Dice.Generator

/-! # Rolls stay in range

    If a source shows nothing but faces of the die, then so does every roll made with it.
    How many dice a roll has, and how many of them count, is bounded by the kind of roll
    alone; and the total of so many faces is exact.

    - `Yields`: the values that a source gives, one after the other.
    - `InRange`: all of them are faces; `inRange_seeded` says so of the generator.
    - `roll_inv`: the dice of an outcome, told by the values that were drawn for it.
    - `bounds_of_roll`: what holds of every outcome.
-/

namespace ChatDice

/-! ## Values of a source -/

section sources

variable {σ : Type} [DieSource σ]

/-- Asked again and again for a die with this number of sides, the first source gives the
values in this order, and the last one is left. -/
inductive Yields (sides : UInt16) : σ → List UInt16 → σ → Prop
  | nil (s : σ) : Yields sides s [] s
  | cons {s next s' : σ} {v : UInt16} {vs : List UInt16} :
      DieSource.next s sides = some (v, next) → Yields sides next vs s' →
        Yields sides s (v :: vs) s'

/-- What is drawn in two parts is drawn in one. -/
theorem Yields.append {sides : UInt16} {s s' s'' : σ} {vs ws : List UInt16}
    (h : Yields sides s vs s') (h' : Yields sides s' ws s'') : Yields sides s (vs ++ ws) s'' := by
  induction h with
  | nil _ => exact h'
  | cons hnext _ ih => exact .cons hnext (ih h')

/-- A die with this number of sides may show this face. -/
def IsFace (sides v : UInt16) : Prop := 1 ≤ v ∧ v ≤ sides

/-- Whatever the source gives for a die with this number of sides is a face of it. -/
def InRange (sides : UInt16) (s : σ) : Prop :=
  ∀ vs s', Yields sides s vs s' → ∀ v ∈ vs, IsFace sides v

/-- A source is in range if it gives a face in every state that it may come to. -/
theorem inRange_of_invariant {sides : UInt16} {P : σ → Prop}
    (hstep : ∀ s v s', P s → DieSource.next s sides = some (v, s') → IsFace sides v ∧ P s')
    {s : σ} (hs : P s) : InRange sides s := by
  intro vs s' h
  induction h with
  | nil _ => exact List.forall_mem_nil _
  | cons hnext _ ih =>
    obtain ⟨hface, hleft⟩ := hstep _ _ _ hs hnext
    exact List.forall_mem_cons.2 ⟨hface, ih hleft⟩

end sources

/-- The generator shows faces only, whatever its seed. -/
theorem inRange_seeded {sides : UInt16} (h : 0 < sides) (seed : UInt64) :
    InRange sides (Source.seeded seed) := by
  refine inRange_of_invariant (P := fun s => ∃ g, s = .generated g) ?_ ⟨⟨seed⟩, rfl⟩
  rintro _ v s' ⟨g, rfl⟩ hnext
  obtain ⟨⟨_, g'⟩, hdie, hv⟩ := Option.map_eq_some_iff.1 hnext
  cases hv
  exact ⟨Wyrand.die_bounds h hdie, g', rfl⟩

/-! ## Sums of faces -/

theorem length_le_exactSum {sides : UInt16} {faces : List UInt16}
    (h : ∀ v ∈ faces, IsFace sides v) :
    faces.length ≤ exactSum faces ∧ exactSum faces ≤ sides.toNat * faces.length := by
  induction faces with
  | nil => exact ⟨Nat.le_refl 0, Nat.le_refl 0⟩
  | cons v faces ih =>
    obtain ⟨⟨hleast, hmost⟩, hfaces⟩ := List.forall_mem_cons.1 h
    obtain ⟨ihleast, ihmost⟩ := ih hfaces
    have hone : 1 ≤ v.toNat := UInt16.le_iff_toNat_le.1 hleast
    have hv : v.toNat ≤ sides.toNat := UInt16.le_iff_toNat_le.1 hmost
    rw [exactSum_cons, List.length_cons, Nat.mul_succ]
    omega

/-! ## Dice of each kind of roll -/

namespace RollKind

/-- The number of dice that a roll of this kind has, if the pool has `count` of them and
explosions may add `limit` more. -/
def HasDice (count limit n : Nat) : RollKind → Prop
  | exploding => count ≤ n ∧ n ≤ count + limit
  | imploding => count ≤ n ∧ n ≤ 2 * count
  | _         => n = count

/-- The number of dice that count in a roll of this kind, if it has `n` dice. -/
def HasKept (n kept : Nat) : RollKind → Prop
  | dropHigh | dropLow => kept + 1 = n
  | keepHigh | keepLow => kept = 1
  | _                  => kept = n

end RollKind

namespace Pool

/-! ## What was drawn for a roll -/

variable {σ : Type} [DieSource σ]

theorem yields_of_drawOnto {die : Die} {n : Nat} {drawn all : List UInt16} {s s' : σ}
    (h : drawOnto die n drawn s = (.ok all, s')) :
    ∃ vs, Yields die.sides s vs s' ∧ vs.length = n ∧ all = vs.reverse ++ drawn := by
  fun_induction drawOnto die n drawn s with
  | case1 drawn s =>
    cases h
    exact ⟨[], .nil _, rfl, rfl⟩
  | case2 n drawn s v next hnext ih =>
    obtain ⟨vs, hyields, hlength, hall⟩ := ih h
    refine ⟨v :: vs, .cons hnext hyields, congrArg (· + 1) hlength, ?_⟩
    rw [hall, List.reverse_cons, List.append_assoc]
    rfl
  | case3 n drawn s hnone => cases h

theorem yields_of_chain {p : Pool} {threshold : UInt16} {room owed : Nat}
    {drawn all : List UInt16} {s s' : σ}
    (h : p.chain threshold room owed drawn s = (.ok all, s')) :
    ∃ vs, Yields p.die.sides s vs s' ∧ vs.length ≤ room ∧ all = vs.reverse ++ drawn := by
  fun_induction chain p threshold room owed drawn s with
  | case1 room drawn s =>
    cases h
    exact ⟨[], .nil _, Nat.zero_le _, rfl⟩
  | case2 owed drawn s => cases h
  -- A die that is added takes up room, whether or not it explodes too.
  | case3 room owed drawn s v next hnext ih =>
    obtain ⟨vs, hyields, hlength, hall⟩ := ih h
    refine ⟨v :: vs, .cons hnext hyields, Nat.succ_le_succ hlength, ?_⟩
    rw [hall, List.reverse_cons, List.append_assoc]
    rfl
  | case4 room owed drawn s hnone => cases h

theorem yields_of_drawAll {p : Pool} {drawn : List UInt16} {s s' : σ}
    (h : p.drawAll s = (.ok drawn, s')) :
    Yields p.die.sides s drawn.reverse s' ∧ drawn.length = p.count.toNat := by
  obtain ⟨vs, hyields, hlength, hall⟩ := yields_of_drawOnto h
  rw [List.append_nil] at hall
  rw [hall, List.reverse_reverse, List.length_reverse]
  exact ⟨hyields, hlength⟩

/-- Dice that are added to those of the pool were drawn after them. -/
theorem yields_of_more {p : Pool} {drawn vs : List UInt16} {s next s' : σ}
    (hall : p.drawAll s = (.ok drawn, next)) (hmore : Yields p.die.sides next vs s') :
    Yields p.die.sides s (vs.reverse ++ drawn).reverse s' ∧
      (vs.reverse ++ drawn).reverse.length = p.count.toNat + vs.length := by
  obtain ⟨hyields, hlength⟩ := yields_of_drawAll hall
  rw [List.reverse_append, List.reverse_reverse, List.length_append, List.length_reverse, hlength]
  exact ⟨hyields.append hmore, rfl⟩

/-- The dice of a normal roll are those of the pool. -/
theorem normal_inv {p : Pool} {modifier : Int16} {s s' : σ} {o : Outcome}
    (h : p.normal modifier s = (.ok o, s')) :
    ∃ vs, Yields p.die.sides s vs s' ∧ vs.length = p.count.toNat ∧ o = .ofFaces vs modifier := by
  rw [normal] at h
  split at h
  · next drawn left hall =>
    cases h
    obtain ⟨hyields, hlength⟩ := yields_of_drawAll hall
    exact ⟨drawn.reverse, hyields, List.length_reverse.trans hlength, rfl⟩
  · cases h

/-- An exploding roll adds no more dice than the limit allows. -/
theorem exploding_inv {p : Pool} {threshold : Option UInt16} {modifier : Int16} {s s' : σ}
    {o : Outcome} (h : p.exploding threshold modifier s = (.ok o, s')) :
    ∃ vs, Yields p.die.sides s vs s' ∧ p.count.toNat ≤ vs.length ∧
      vs.length ≤ p.count.toNat + p.limit ∧ o = .ofFaces vs modifier := by
  rw [exploding] at h
  split at h
  · cases h
  · split at h
    · cases h
    · next drawn next hall =>
      split at h
      · next all left hchain =>
        cases h
        -- The drawn dice come first, then those the chain adds, within the limit.
        obtain ⟨vs, hadded, hroom, rfl⟩ := yields_of_chain hchain
        obtain ⟨hyields, hlength⟩ := yields_of_more hall hadded
        exact ⟨_, hyields, by omega, by omega, rfl⟩
      · cases h

/-- An imploding roll adds no more dice than the pool has. -/
theorem imploding_inv {p : Pool} {threshold : Option UInt16} {modifier : Int16} {s s' : σ}
    {o : Outcome} (h : p.imploding threshold modifier s = (.ok o, s')) :
    ∃ vs, Yields p.die.sides s vs s' ∧ p.count.toNat ≤ vs.length ∧
      vs.length ≤ 2 * p.count.toNat ∧ o = .ofFaces vs modifier := by
  rw [imploding] at h
  split at h
  · cases h
  · next drawn next hall =>
    have hdrawn : drawn.length = p.count.toNat := (yields_of_drawAll hall).2
    -- No more dice implode than there are.
    have himploded : imploded (threshold.getD 1) drawn ≤ drawn.length := List.countP_le_length
    split at h
    · next all left hmore =>
      cases h
      obtain ⟨vs, hadded, hcount, rfl⟩ := yields_of_drawOnto hmore
      obtain ⟨hyields, hlength⟩ := yields_of_more hall hadded
      exact ⟨_, hyields, by omega, by omega, rfl⟩
    · cases h

/-- A roll that marks a die has the dice of the pool, and the marked one is among them. -/
theorem marked_inv {p : Pool} {e : Extreme} {kind : RollKind} {mark : Bool → UInt16 → DieResult}
    {modifier : Int16} {s s' : σ} {o : Outcome}
    (h : p.marked e kind mark modifier s = (.ok o, s')) :
    ∃ vs m, Yields p.die.sides s vs s' ∧ vs.length = p.count.toNat ∧ m < vs.length ∧
      o = markedAt m mark vs modifier := by
  rw [marked] at h
  split at h
  · cases h
  · next drawn left hall =>
    obtain ⟨hyields, hlength⟩ := yields_of_drawAll hall
    -- Dice are there, so one of them was picked.
    dsimp only at h
    split at h
    · next m hpicked =>
      cases h
      have hlt : m < drawn.reverse.length := lt_length_of_pick hpicked
      exact ⟨drawn.reverse, m, hyields, List.length_reverse.trans hlength, hlt, rfl⟩
    · cases h

/-! ## Any roll -/

/-- What is known of the outcome of a roll from the values that were drawn for it: each die
has one of them, those that count do so with their own, and the total is theirs. -/
structure MadeOf (p : Pool) (q : Request) (vs : List UInt16) (o : Outcome) : Prop where
  drawn  : q.kind.HasDice p.count.toNat p.limit vs.length
  length : o.dice.length = vs.length
  kept   : o.kept.Sublist vs
  count  : q.kind.HasKept vs.length o.kept.length
  total  : o = .ofDice o.dice q.modifier

theorem madeOf_ofFaces {p : Pool} {q : Request} {vs : List UInt16}
    (hdrawn : q.kind.HasDice p.count.toNat p.limit vs.length)
    (hkind : q.kind.HasKept vs.length vs.length) :
    MadeOf p q vs (.ofFaces vs q.modifier) where
  drawn  := hdrawn
  length := List.length_map _
  kept   := by rw [Outcome.kept_ofFaces]
  count  := by rwa [Outcome.kept_ofFaces]
  total  := rfl

theorem madeOf_dropMark {p : Pool} {q : Request} {vs : List UInt16} {m : Nat} (hm : m < vs.length)
    (hdrawn : q.kind.HasDice p.count.toNat p.limit vs.length)
    (hkind : q.kind.HasKept vs.length (vs.length - 1)) :
    MadeOf p q vs (markedAt m dropMark vs q.modifier) where
  drawn  := hdrawn
  length := List.length_mapIdx
  kept   := by
    rw [kept_markedAt_dropMark]
    exact List.eraseIdx_sublist _ _
  count  := by rwa [kept_markedAt_dropMark, List.length_eraseIdx_of_lt hm]
  total  := rfl

theorem madeOf_keepMark {p : Pool} {q : Request} {vs : List UInt16} {m : Nat} (hm : m < vs.length)
    (hdrawn : q.kind.HasDice p.count.toNat p.limit vs.length)
    (hkind : q.kind.HasKept vs.length 1) :
    MadeOf p q vs (markedAt m keepMark vs q.modifier) where
  drawn  := hdrawn
  length := List.length_mapIdx
  kept   := by
    rw [kept_markedAt_keepMark hm]
    exact List.singleton_sublist.2 (List.getElem_mem hm)
  count  := by rwa [kept_markedAt_keepMark hm]
  total  := rfl

/-- Every outcome is made of the values that were drawn for it. -/
theorem roll_inv {p : Pool} {q : Request} {s s' : σ} {o : Outcome}
    (h : p.roll q s = (.ok o, s')) : ∃ vs, Yields p.die.sides s vs s' ∧ MadeOf p q vs o := by
  obtain ⟨kind, count, sides, modifier, threshold⟩ := q
  -- Each kind has its own inversion, and its own number of dice.
  cases kind with
  | normal =>
    have hnormal : p.normal modifier s = (.ok o, s') := h
    obtain ⟨vs, hyields, hlength, rfl⟩ := normal_inv hnormal
    exact ⟨vs, hyields, madeOf_ofFaces hlength rfl⟩
  | exploding =>
    have hexploding : p.exploding threshold modifier s = (.ok o, s') := h
    obtain ⟨vs, hyields, hleast, hmost, rfl⟩ := exploding_inv hexploding
    exact ⟨vs, hyields, madeOf_ofFaces ⟨hleast, hmost⟩ rfl⟩
  | imploding =>
    have himploding : p.imploding threshold modifier s = (.ok o, s') := h
    obtain ⟨vs, hyields, hleast, hmost, rfl⟩ := imploding_inv himploding
    exact ⟨vs, hyields, madeOf_ofFaces ⟨hleast, hmost⟩ rfl⟩
  | dropHigh | dropLow =>
    obtain ⟨vs, m, hyields, hlength, hm, rfl⟩ := marked_inv h
    have hothers : vs.length - 1 + 1 = vs.length := Nat.sub_add_cancel (Nat.zero_lt_of_lt hm)
    exact ⟨vs, hyields, madeOf_dropMark hm hlength hothers⟩
  | keepHigh | keepLow =>
    obtain ⟨vs, m, hyields, hlength, hm, rfl⟩ := marked_inv h
    exact ⟨vs, hyields, madeOf_keepMark hm hlength rfl⟩

/-- **Rolls stay in range, and their arithmetic is exact.**  A request whose dice have a
valid number of sides has a pool, and whatever the limit for explosions and whatever source
shows nothing but faces of such a die, as the generator does from every seed: if the roll
succeeds, every die that counts shows a face; there are as many dice, and as many of them
count, as the kind of roll allows; the exact sum of those that count lies between their
number and their number times the sides; and for fewer than 2⁴⁷ dice neither the sum in
64 bits nor the total differs from the exact one. -/
theorem bounds_of_roll {q : Request} (hq : q.HasDie) :
    (∀ seed, InRange q.sides (Source.seeded seed)) ∧
    ∃ p, ofRequest q = .ok p ∧
      ∀ (limit : Nat) (σ : Type) [DieSource σ] (s s' : σ) (o : Outcome), InRange q.sides s →
        (p.withLimit limit).roll q s = (.ok o, s') →
          (∀ v, .counted v ∈ o.dice → 1 ≤ v ∧ v ≤ q.sides) ∧
          q.kind.HasDice q.count.toNat limit o.dice.length ∧
          q.kind.HasKept o.dice.length o.kept.length ∧
          o.kept.length ≤ exactSum o.kept ∧ exactSum o.kept ≤ q.sides.toNat * o.kept.length ∧
          (o.dice.length < 2 ^ 47 → (faceSum o.kept).toInt = exactSum o.kept ∧
            o.total.toInt - q.modifier.toInt = exactSum o.kept) := by
  have hpos : 0 < q.sides := UInt16.lt_of_lt_of_le (by decide) hq.1
  refine ⟨inRange_seeded hpos, _, ofRequest_of_hasDie hq, ?_⟩
  intro limit σ _ s s' o hrange hroll
  obtain ⟨vs, hyields, made⟩ := roll_inv hroll
  -- Every die that counts is one of the values that were drawn.
  have hfaces : ∀ v ∈ o.kept, IsFace q.sides v := fun v hv =>
    hrange vs s' hyields v (made.kept.subset hv)
  obtain ⟨hleast, hmost⟩ := length_le_exactSum hfaces
  refine ⟨?_, ?_, ?_, hleast, hmost, ?_⟩
  · intro v hv
    exact hfaces v (List.mem_filterMap.2 ⟨_, hv, rfl⟩)
  · rw [made.length]
    exact made.drawn
  · rw [made.length]
    exact made.count
  · intro hfew
    -- Few enough dice fit into 64 bits, so sum and total are exact.
    have hfits : Outcome.Fits o.kept q.modifier :=
      Outcome.fits_of_length_lt (Nat.lt_of_le_of_lt (List.length_filterMap_le _ _) hfew) _
    have hsum : exactSum o.kept < 2 ^ 63 := by
      unfold Outcome.Fits at hfits
      omega
    refine ⟨?_, ?_⟩
    · rw [faceSum_eq, Int64.toInt_ofNat_of_lt hsum]
    · rw [made.total] at hfits ⊢
      have htotal := Outcome.toInt_total_ofDice hfits
      omega

/-- Four dice that explode at five. -/
def explodingAtFive : Request := ⟨.exploding, 4, 6, -2, some 5⟩

/-- With this seed three dice explode, as many as the limit allows. -/
theorem bounds_of_roll_seeded :
    ∃ p o s', ofRequest explodingAtFive = .ok p ∧
      (p.withLimit 3).roll explodingAtFive (Source.seeded 4) = (.ok o, s') ∧
      o.dice = [3, 5, 2, 5, 6, 3, 4].map .counted ∧
      (∀ v, .counted v ∈ o.dice → 1 ≤ v ∧ v ≤ 6) ∧
      (4 ≤ o.dice.length ∧ o.dice.length ≤ 4 + 3) ∧ o.kept.length = o.dice.length ∧
      o.total.toInt - (-2) = exactSum o.kept := by
  obtain ⟨hseeds, p, hp, hbounds⟩ := bounds_of_roll (q := explodingAtFive) (by decide)
  obtain rfl : p = ⟨4, sixSided, 10000⟩ := (Except.ok.inj hp).symm
  have hroll : ((withLimit ⟨4, sixSided, 10000⟩ 3).roll explodingAtFive (Source.seeded 4)).1 =
      .ok (.ofFaces [3, 5, 2, 5, 6, 3, 4] (-2)) := by decide +kernel
  obtain ⟨hface, hdice, hkept, -, -, hexact⟩ :=
    hbounds 3 Source (Source.seeded 4) _ _ (hseeds 4) (Prod.ext hroll rfl)
  exact ⟨_, _, _, hp, Prod.ext hroll rfl, rfl, hface, hdice, hkept, (hexact (by decide)).2⟩

end Pool

end ChatDice
