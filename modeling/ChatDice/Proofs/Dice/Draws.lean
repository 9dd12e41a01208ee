import ChatDice.Dice.Pool

/-! # What drawing dice comes to

    A request is refused before a die is drawn if its dice cannot be made, if there
    is no die to pick from, or if every die would explode.  Any other request, rolled
    with a source that never ends, has an outcome, unless it is exploding and goes on
    past the limit.

    - `refusal?`: the reason why a request is refused, the first that applies.
    - `drawOnto_ok`, `chain_cases`: drawing on, from a source that never ends.
    - `roll_cases`: what a pool makes of any kind of roll.
-/

namespace ChatDice

/-! ## Sources that never end -/

/-- A type of sources that always have one more value. -/
class UnendingSource (σ : Type) [DieSource σ] : Prop where
  next_ne_none : ∀ (s : σ) (sides : UInt16), DieSource.next s sides ≠ none

instance : UnendingSource Tape where
  next_ne_none _ _ := Option.some_ne_none _

theorem exists_next {σ : Type} [DieSource σ] [UnendingSource σ] (s : σ) (sides : UInt16) :
    ∃ v s', DieSource.next s sides = some (v, s') := by
  obtain ⟨⟨v, s'⟩, hnext⟩ := Option.ne_none_iff_exists'.1 (UnendingSource.next_ne_none s sides)
  exact ⟨v, s', hnext⟩

/-! ## Refused requests -/

namespace Request

/-- There are dice with this number of sides. -/
def HasDie (q : Request) : Prop := minSides ≤ q.sides ∧ q.sides ≤ maxSides

/-- A drop or keep roll without dice. -/
def PicksFromNone (q : Request) : Prop :=
  q.kind ∈ [.dropHigh, .dropLow, .keepHigh, .keepLow] ∧ q.count = 0

/-- An exploding roll of some dice whose threshold every face reaches. -/
def NeverEnds (q : Request) : Prop :=
  q.kind = .exploding ∧ 0 < q.count ∧ ∃ n ∈ q.threshold, n ≤ 1

instance (q : Request) : Decidable q.HasDie := inferInstanceAs (Decidable (_ ∧ _))

instance (q : Request) : Decidable q.PicksFromNone := inferInstanceAs (Decidable (_ ∧ _))

instance (q : Request) : Decidable q.NeverEnds := inferInstanceAs (Decidable (_ ∧ _ ∧ _))

/-- Why a request is refused before anything is drawn, if it is. -/
def refusal? (q : Request) : Option DiceError :=
  if q.HasDie then
    if q.PicksFromNone then some (.emptyRoll q.kind)
    else if q.NeverEnds then some (.infiniteRolls q)
    else none
  else some (.invalidSides q.sides)

end Request

/-! ## Pools -/

namespace Pool

/-- A request with dice has a pool of them. -/
theorem ofRequest_of_hasDie {q : Request} (h : q.HasDie) :
    ofRequest q = .ok ⟨q.count, ⟨q.sides, h⟩, defaultRollLimit⟩ := by
  have hdie : Die.ofSides q.sides = .ok ⟨q.sides, h⟩ := dif_pos h
  rw [ofRequest, ofDice, hdie]

theorem ofRequest_of_not_hasDie {q : Request} (h : ¬ q.HasDie) :
    ofRequest q = .error (.invalidSides q.sides) := by
  have hdie : Die.ofSides q.sides = .error (.invalidSides q.sides) := dif_neg h
  rw [ofRequest, ofDice, hdie]

variable {σ : Type} [DieSource σ]

/-! ## Rolls that are refused -/

/-- Without dice nothing is drawn. -/
theorem drawAll_of_count_eq_zero {p : Pool} (h : p.count = 0) (s : σ) :
    p.drawAll s = (.ok [], s) := by
  rw [drawAll, h]
  rfl

theorem marked_of_count_eq_zero {p : Pool} (h : p.count = 0) (e : Extreme) (kind : RollKind)
    (mark : Bool → UInt16 → DieResult) (modifier : Int16) (s : σ) :
    p.marked e kind mark modifier s = (.error (.refused (.emptyRoll kind)), s) := by
  rw [marked, drawAll_of_count_eq_zero h]
  cases e <;> rfl

/-- A drop or keep roll without dice is refused. -/
theorem roll_of_picksFromNone {p : Pool} {q : Request} (h : q.PicksFromNone)
    (hcount : p.count = q.count) (s : σ) :
    p.roll q s = (.error (.refused (.emptyRoll q.kind)), s) := by
  obtain ⟨hkind, hzero⟩ := h
  have hp : p.count = 0 := hcount.trans hzero
  simp only [List.mem_cons, List.not_mem_nil, or_false] at hkind
  rw [roll]
  -- The four kinds differ in what they mark, and none of them has a die to mark.
  rcases hkind with hkind | hkind | hkind | hkind
  all_goals
    rw [hkind]
    exact marked_of_count_eq_zero hp _ _ _ _ s

/-- An exploding roll that never ends is refused, with the request itself. -/
theorem roll_of_neverEnds {p : Pool} {q : Request} (h : q.NeverEnds)
    (hcount : p.count = q.count) (hsides : p.die.sides = q.sides) (s : σ) :
    p.roll q s = (.error (.refused (.infiniteRolls q)), s) := by
  obtain ⟨hkind, hpos, n, hn, hle⟩ := h
  have hthreshold : q.threshold = some n := hn
  have hrequest : p.explodingRequest n q.modifier = q := by
    rw [explodingRequest, hcount, hsides, ← hkind, ← hthreshold]
  have hrefused : 0 < p.count ∧ q.threshold.getD p.die.sides ≤ 1 := by
    rw [hcount, hthreshold]
    exact ⟨hpos, hle⟩
  rw [roll, hkind]
  show p.exploding q.threshold q.modifier s = _
  rw [exploding, if_pos hrefused, hthreshold, Option.getD_some, hrequest]

/-! ## Drawing on -/

variable [UnendingSource σ]

/-- As many values are drawn as were asked for. -/
theorem drawOnto_ok (die : Die) (n : Nat) (drawn : List UInt16) (s : σ) :
    ∃ faces s', drawOnto die n drawn s = (.ok (faces ++ drawn), s') ∧ faces.length = n := by
  induction n generalizing drawn s with
  | zero => exact ⟨[], s, rfl, rfl⟩
  | succ n ih =>
    obtain ⟨v, next, hnext⟩ := exists_next s die.sides
    obtain ⟨faces, s', hrest, hlength⟩ := ih (v :: drawn) next
    -- The newest value stands in front, so `v` comes last of those drawn here.
    refine ⟨faces ++ [v], s', ?_, ?_⟩
    · rw [drawOnto, hnext]
      dsimp only
      rw [hrest, List.append_assoc]
      rfl
    · rw [List.length_append, hlength]
      rfl

theorem drawAll_ok (p : Pool) (s : σ) :
    ∃ faces s', p.drawAll s = (.ok faces, s') ∧ faces.length = p.count.toNat := by
  obtain ⟨faces, s', hdrawn, hlength⟩ := drawOnto_ok p.die p.count.toNat [] s
  refine ⟨faces, s', ?_, hlength⟩
  rw [drawAll, hdrawn, List.append_nil]

/-- Explosions come to an end, or go on past the limit. -/
theorem chain_cases (p : Pool) (threshold : UInt16) (room owed : Nat) (drawn : List UInt16)
    (s : σ) :
    (∃ faces s', p.chain threshold room owed drawn s = (.ok faces, s')) ∨
    (∃ s', p.chain threshold room owed drawn s =
      (.error (.refused (.tooManyRolls p.limit)), s')) := by
  -- Every value takes up room under the limit, also one that explodes and is owed again.
  induction room generalizing owed drawn s with
  | zero =>
    cases owed with
    | zero => exact .inl ⟨drawn, s, by rw [chain]⟩
    | succ owed => exact .inr ⟨s, by rw [chain]⟩
  | succ room ih =>
    cases owed with
    | zero => exact .inl ⟨drawn, s, by rw [chain]⟩
    | succ owed =>
      obtain ⟨v, next, hnext⟩ := exists_next s p.die.sides
      have hstep := ih (owed + exploded threshold [v]) (v :: drawn) next
      rw [chain, hnext]
      exact hstep

/-! ## Rolls that are not refused -/

theorem normal_ok (p : Pool) (modifier : Int16) (s : σ) :
    ∃ o s', p.normal modifier s = (.ok o, s') := by
  obtain ⟨faces, s', hdrawn, -⟩ := p.drawAll_ok s
  rw [normal, hdrawn]
  exact ⟨_, _, rfl⟩

theorem imploding_ok (p : Pool) (threshold : Option UInt16) (modifier : Int16) (s : σ) :
    ∃ o s', p.imploding threshold modifier s = (.ok o, s') := by
  obtain ⟨faces, s₁, hdrawn, -⟩ := p.drawAll_ok s
  obtain ⟨more, s₂, hmore, -⟩ :=
    drawOnto_ok p.die (imploded (threshold.getD 1) faces) faces s₁
  rw [imploding, hdrawn]
  dsimp only
  rw [hmore]
  exact ⟨_, _, rfl⟩

/-- Of some dice one is picked. -/
theorem pick_ne_none (beats : UInt16 → UInt16 → Bool) {faces : List UInt16} (h : faces ≠ []) :
    pick beats faces ≠ none := by
  cases faces with
  | nil => exact absurd rfl h
  | cons first rest => exact Option.some_ne_none _

theorem marked_ok {p : Pool} (h : p.count ≠ 0) (e : Extreme) (kind : RollKind)
    (mark : Bool → UInt16 → DieResult) (modifier : Int16) (s : σ) :
    ∃ o s', p.marked e kind mark modifier s = (.ok o, s') := by
  obtain ⟨faces, s', hdrawn, hlength⟩ := p.drawAll_ok s
  have hfaces : faces.reverse ≠ [] := by
    intro hnil
    rw [List.reverse_eq_nil_iff.1 hnil, List.length_nil] at hlength
    exact h (UInt16.toNat_inj.1 hlength.symm)
  obtain ⟨m, hm⟩ := Option.ne_none_iff_exists'.1 (pick_ne_none e.beats hfaces)
  rw [marked, hdrawn]
  dsimp only
  rw [hm]
  exact ⟨_, _, rfl⟩

/-- An exploding roll that may end has an outcome, or goes on past the limit. -/
theorem exploding_cases {p : Pool} {threshold : Option UInt16}
    (h : ¬ (0 < p.count ∧ threshold.getD p.die.sides ≤ 1)) (modifier : Int16) (s : σ) :
    (∃ o s', p.exploding threshold modifier s = (.ok o, s')) ∨
    (∃ s', p.exploding threshold modifier s =
      (.error (.refused (.tooManyRolls p.limit)), s')) := by
  obtain ⟨faces, s₁, hdrawn, -⟩ := p.drawAll_ok s
  -- A source that never ends draws all the dice, so only the chain can fail.
  have hchain := p.chain_cases (threshold.getD p.die.sides) p.limit
    (exploded (threshold.getD p.die.sides) faces) faces s₁
  rw [exploding, if_neg h, hdrawn]
  dsimp only
  rcases hchain with ⟨all, s₂, hchain⟩ | ⟨s₂, hchain⟩
  · rw [hchain]
    exact .inl ⟨_, _, rfl⟩
  · rw [hchain]
    exact .inr ⟨_, rfl⟩

/-- A roll that is not refused has an outcome; only an exploding one may go on past
the limit instead. -/
theorem roll_cases {p : Pool} {q : Request} (hpick : ¬ q.PicksFromNone) (hends : ¬ q.NeverEnds)
    (hcount : p.count = q.count) (s : σ) :
    (∃ o s', p.roll q s = (.ok o, s')) ∨
    (q.kind = .exploding ∧ ∃ s', p.roll q s =
      (.error (.refused (.tooManyRolls p.limit)), s')) := by
  have picked : q.kind ∈ [.dropHigh, .dropLow, .keepHigh, .keepLow] → p.count ≠ 0 := by
    intro hkind hzero
    exact hpick ⟨hkind, hcount.symm.trans hzero⟩
  cases hkind : q.kind with
  | normal =>
    rw [roll, hkind]
    exact .inl (p.normal_ok q.modifier s)
  | exploding =>
    have ends : ¬ (0 < p.count ∧ q.threshold.getD p.die.sides ≤ 1) := by
      rintro ⟨hpos, hle⟩
      cases hthreshold : q.threshold with
      | none =>
        -- Every die has a face below the highest.
        rw [hthreshold, Option.getD_none] at hle
        exact absurd (UInt16.le_trans p.die.valid.1 hle) (by decide)
      | some n =>
        rw [hthreshold, Option.getD_some] at hle
        exact hends ⟨hkind, hcount ▸ hpos, n, hthreshold, hle⟩
    rw [roll, hkind]
    rcases exploding_cases ends q.modifier s with hok | hmany
    · exact .inl hok
    · exact .inr ⟨rfl, hmany⟩
  | imploding =>
    rw [roll, hkind]
    exact .inl (p.imploding_ok q.threshold q.modifier s)
  | dropHigh | dropLow | keepHigh | keepLow =>
    rw [roll, hkind]
    exact .inl (marked_ok (picked (by simp [hkind])) _ _ _ _ s)

end Pool

end ChatDice
