import ChatDice.Proofs.Dice.Streams
import ChatDice.Proofs.Dice.Totals
import Mathlib.Order.Bounds.Basic

/-! # Exploding rolls in closed form

    An exploding roll looks at its dice one by one while it adds to them.  What comes of
    it can be told from the stream of faces alone: the roll ends with the first number of
    dice that are those of the pool and one more for each of them that explodes, unless
    more than the limit would be added on the way there.

    - `scan`, `exploding_eq_scan`: the loop over places, and that it is what a roll does.
    - `Settled`: such a number of dice.
    - `chain_faces`: adding dice goes on to the first such number, or past the limit.
    - `exploding_closed_form`: what an exploding roll comes to, for every stream.
-/

namespace ChatDice.Pool

open UnendingSource

/-! ## The scanning loop -/

section Scan

variable {σ : Type} [DieSource σ]

/-- The loop of an exploding roll: it goes over the dice by their place, while it adds to
them.  If the die at `idx` explodes, one more is put at the end, unless `added` dice are
all that the limit allows. -/
def scan (p : Pool) (threshold : UInt16) (idx added : Nat) (faces : List UInt16) (s : σ) :
    Drawn σ (List UInt16) :=
  if h : idx < faces.length then
    if threshold ≤ faces[idx] then
      if p.limit ≤ added then (.error (.refused (.tooManyRolls p.limit)), s)
      else
        match DieSource.next s p.die.sides with
        | some (v, s) => scan p threshold (idx + 1) (added + 1) (faces ++ [v]) s
        | none        => (.error .exhausted, s)
    else scan p threshold (idx + 1) added faces s
  else (.ok faces, s)
termination_by (p.limit - added) + (faces.length - idx)
decreasing_by
  · rw [List.length_append, List.length_singleton]
    omega
  · omega

/-- The die at a place is the first of those that are left to look at. -/
theorem exploded_drop (threshold : UInt16) {faces : List UInt16} {idx : Nat}
    (h : idx < faces.length) :
    exploded threshold (faces.drop idx) =
      exploded threshold (faces.drop (idx + 1)) + if threshold ≤ faces[idx] then 1 else 0 := by
  rw [List.drop_eq_getElem_cons h, exploded, List.countP_cons]
  simp only [decide_eq_true_eq]
  rfl

/-- The loop does what `chain` does: the dice that are owed are those that are left to look
at and explode, and there is room for those that the limit still allows. -/
theorem scan_eq_chain (p : Pool) (threshold : UInt16) (idx added : Nat) (faces : List UInt16)
    (s : σ) :
    p.scan threshold idx added faces s =
      (p.chain threshold (p.limit - added) (exploded threshold (faces.drop idx)) faces.reverse s).map
        (Except.map List.reverse) id := by
  fun_induction scan p threshold idx added faces s with
  | case1 idx added faces s hidx hexplodes hfull =>
    rw [exploded_drop threshold hidx, if_pos hexplodes, Nat.sub_eq_zero_of_le hfull, chain]
    rfl
  | case2 idx added faces s hidx hexplodes hroom v next hnext ih =>
    -- One place of the room is taken, and the new die is left to look at too.
    have hleft : exploded threshold ((faces ++ [v]).drop (idx + 1)) =
        exploded threshold (faces.drop (idx + 1)) + exploded threshold [v] := by
      rw [List.drop_append_of_le_length hidx, exploded, List.countP_append]
      rfl
    have hsub : p.limit - added = p.limit - (added + 1) + 1 := by omega
    rw [ih, hleft, exploded_drop threshold hidx, if_pos hexplodes, hsub, chain, hnext,
      List.reverse_concat]
  | case3 idx added faces s hidx hexplodes hroom hnext =>
    have hsub : p.limit - added = p.limit - (added + 1) + 1 := by omega
    rw [exploded_drop threshold hidx, if_pos hexplodes, hsub, chain, hnext]
    rfl
  | case4 idx added faces s hidx hstays ih =>
    rw [exploded_drop threshold hidx, if_neg hstays]
    exact ih
  | case5 idx added faces s hend =>
    have hnone : faces.drop idx = [] := List.drop_eq_nil_of_le (Nat.le_of_not_lt hend)
    have howed : exploded threshold (faces.drop idx) = 0 := by rw [hnone]; rfl
    rw [howed, chain]
    show _ = (Except.ok faces.reverse.reverse, s)
    rw [List.reverse_reverse]

/-- An exploding roll runs that loop over the dice of the pool, from the first one on. -/
theorem exploding_eq_scan (p : Pool) (threshold : Option UInt16) (modifier : Int16) (s : σ) :
    p.exploding threshold modifier s =
      let t := threshold.getD p.die.sides
      if 0 < p.count ∧ t ≤ 1 then
        (.error (.refused (.infiniteRolls (p.explodingRequest t modifier))), s)
      else
        match p.drawAll s with
        | (.error e, s)  => (.error e, s)
        | (.ok drawn, s) =>
          match p.scan t 0 0 drawn.reverse s with
          | (.ok faces, s) => (.ok (.ofFaces faces modifier), s)
          | (.error e, s)  => (.error e, s) := by
  rw [exploding]
  dsimp only
  split
  · rfl
  · cases p.drawAll s with
    | mk drawn s₁ =>
      cases drawn with
      | error e => rfl
      | ok drawn =>
        -- Nothing was looked at yet, so all explosions of the pool are owed.
        have howed (t : UInt16) : exploded t (drawn.reverse.drop 0) = exploded t drawn :=
          List.countP_reverse
        dsimp only
        rw [scan_eq_chain, howed, List.reverse_reverse, Nat.sub_zero]
        cases p.chain _ p.limit _ drawn s₁ with
        | mk all s₂ =>
          cases all with
          | error e => rfl
          | ok all => rfl

end Scan

variable {σ : Type} [DieSource σ] [UnendingSource σ]

/-! ## Explosions in a stream -/

/-- How many of the first `k` dice are at or above the threshold. -/
def explosions (p : Pool) (threshold : UInt16) (s : σ) (k : Nat) : Nat :=
  Nat.count (fun i => threshold ≤ face s p.die.sides i) k

/-- The first `k` dice are those of the pool and one for each of them that explodes. -/
def Settled (p : Pool) (threshold : UInt16) (s : σ) (k : Nat) : Prop :=
  k = p.count.toNat + p.explosions threshold s k

instance (p : Pool) (threshold : UInt16) (s : σ) (k : Nat) : Decidable (p.Settled threshold s k) :=
  inferInstanceAs (Decidable (k = _))

variable (p : Pool) (threshold : UInt16) (s : σ)

theorem explosions_succ (k : Nat) :
    p.explosions threshold s (k + 1) =
      p.explosions threshold s k + exploded threshold [face s p.die.sides k] := by
  rw [explosions, Nat.count_succ, exploded, List.countP_singleton]
  simp only [explosions, decide_eq_true_eq]

theorem explosions_mono : Monotone (p.explosions threshold s) := Nat.count_monotone _

/-- The explosions among the faces that were drawn are those of the stream. -/
theorem exploded_faces (k : Nat) :
    exploded threshold (faces s p.die.sides k) = p.explosions threshold s k :=
  countP_faces (threshold ≤ ·) s p.die.sides k

variable {p threshold s}

theorem isLeast_settled {k : Nat} (hsettled : p.Settled threshold s k)
    (hopen : ∀ j < k, ¬ p.Settled threshold s j) :
    IsLeast {k | p.Settled threshold s k} k := by
  refine ⟨hsettled, ?_⟩
  intro j hj
  exact Nat.le_of_not_lt fun hlt => hopen j hlt hj

/-! ## Adding dice -/

/-- After `k` dice, none of which settled the roll, dice are added up to the first number
that does, or the limit is passed when there is no more room. -/
theorem chain_faces {k room owed : Nat} (hroom : k + room = p.count.toNat + p.limit)
    (howed : k + owed = p.count.toNat + p.explosions threshold s k)
    (hopen : ∀ j < k, ¬ p.Settled threshold s j) :
    (∃ k', IsLeast {k | p.Settled threshold s k} k' ∧ p.explosions threshold s k' ≤ p.limit ∧
      p.chain threshold room owed (faces s p.die.sides k).reverse (after s p.die.sides k) =
        (.ok (faces s p.die.sides k').reverse, after s p.die.sides k')) ∨
    ((∀ k', p.Settled threshold s k' → p.limit < p.explosions threshold s k') ∧
      p.chain threshold room owed (faces s p.die.sides k).reverse (after s p.die.sides k) =
        (.error (.refused (.tooManyRolls p.limit)),
          after s p.die.sides (p.count.toNat + p.limit))) := by
  -- Every die that is added takes up room; the number of dice and the room make up the limit.
  induction room generalizing k owed with
  | zero =>
    cases owed with
    | zero => exact .inl ⟨k, isLeast_settled howed hopen, by omega, by rw [chain]⟩
    | succ owed =>
      right
      constructor
      · intro k' hsettled
        -- A number that settles the roll is not below `k`, so it has as many explosions.
        have hle : k ≤ k' := Nat.le_of_not_lt fun hlt => hopen k' hlt hsettled
        have hmono := p.explosions_mono threshold s hle
        omega
      · rw [chain, ← hroom, Nat.add_zero]
  | succ room ih =>
    cases owed with
    | zero => exact .inl ⟨k, isLeast_settled howed hopen, by omega, by rw [chain]⟩
    | succ owed =>
      have hnewest : face s p.die.sides k :: (faces s p.die.sides k).reverse =
          (faces s p.die.sides (k + 1)).reverse := by
        rw [faces_succ, List.reverse_concat]
      have hsucc := p.explosions_succ threshold s k
      rw [chain, next_after]
      dsimp only
      rw [hnewest]
      refine ih (by omega) (by omega) ?_
      intro j hj hsettled
      rcases Nat.lt_succ_iff_lt_or_eq.1 hj with hlt | rfl
      · exact hopen j hlt hsettled
      · -- A die is owed, so the dice drawn so far are too few.
        unfold Settled at hsettled
        omega

/-! ## The closed form -/

/-- A roll that is not refused draws the pool, and adds dice from there. -/
theorem exploding_cases_of_stream {t : Option UInt16}
    (h : ¬ (0 < p.count ∧ t.getD p.die.sides ≤ 1)) (modifier : Int16) (s : σ) :
    (∃ k, IsLeast {k | p.Settled (t.getD p.die.sides) s k} k ∧
      p.explosions (t.getD p.die.sides) s k ≤ p.limit ∧
      p.exploding t modifier s =
        (.ok (.ofFaces (faces s p.die.sides k) modifier), after s p.die.sides k)) ∨
    ((∀ k, p.Settled (t.getD p.die.sides) s k → p.limit < p.explosions (t.getD p.die.sides) s k) ∧
      p.exploding t modifier s =
        (.error (.refused (.tooManyRolls p.limit)),
          after s p.die.sides (p.count.toNat + p.limit))) := by
  have howed : exploded (t.getD p.die.sides) (faces s p.die.sides p.count.toNat).reverse =
      p.explosions (t.getD p.die.sides) s p.count.toNat := by
    rw [exploded, List.countP_reverse]
    exact p.exploded_faces _ s _
  -- Fewer dice than the pool has settle nothing.
  have hopen : ∀ j < p.count.toNat, ¬ p.Settled (t.getD p.die.sides) s j := by
    intro j hj hsettled
    unfold Settled at hsettled
    omega
  rw [exploding, if_neg h, drawAll_faces]
  dsimp only
  rw [howed]
  have hroom : p.count.toNat + p.limit = p.count.toNat + p.limit := rfl
  rcases chain_faces hroom rfl hopen with ⟨k, hk, hlimit, hchain⟩ | ⟨hmany, hchain⟩
  · rw [hchain]
    dsimp only
    rw [List.reverse_reverse]
    exact .inl ⟨k, hk, hlimit, rfl⟩
  · rw [hchain]
    exact .inr ⟨hmany, rfl⟩

/-- **Exploding rolls have a closed form, and always end.**  If every face would explode
and there is a die, the roll is refused and nothing is drawn.  Otherwise it is settled by
the least number `k` of dice that are those of the pool and one for each explosion among
them: if the limit allows for these explosions, the outcome has just the first `k` faces
of the stream, and just these were drawn.  If it does not, or if no number of dice settles
the roll, the limit is passed after as many dice as it allows.  The total is the exact
sum and the modifier in 64 bits, and is exact itself whenever these are enough, as they
are for fewer than 2⁴⁷ dice. -/
theorem exploding_closed_form (p : Pool) (threshold : Option UInt16) (modifier : Int16) (s : σ) :
    let t := threshold.getD p.die.sides
    (0 < p.count ∧ t ≤ 1 →
      p.exploding threshold modifier s =
        (.error (.refused (.infiniteRolls (p.explodingRequest t modifier))), s)) ∧
    (¬ (0 < p.count ∧ t ≤ 1) →
      (∀ k, IsLeast {k | k = p.count.toNat + p.explosions t s k} k → p.explosions t s k ≤ p.limit →
        ∃ o, p.exploding threshold modifier s = (.ok o, after s p.die.sides k) ∧
          o.dice = (faces s p.die.sides k).map .counted ∧ o.modifier = modifier ∧
          o.total = saturatingAdd (Int64.ofNat (exactSum (faces s p.die.sides k)))
            modifier.toInt64 ∧
          (Outcome.Fits (faces s p.die.sides k) modifier →
            o.total.toInt = exactSum (faces s p.die.sides k) + modifier.toInt)) ∧
      ((¬ ∃ k, IsLeast {k | k = p.count.toNat + p.explosions t s k} k ∧
          p.explosions t s k ≤ p.limit) →
        p.exploding threshold modifier s =
          (.error (.refused (.tooManyRolls p.limit)),
            after s p.die.sides (p.count.toNat + p.limit)))) := by
  intro t
  refine ⟨?_, ?_⟩
  · intro hrefused
    rw [exploding, if_pos hrefused]
  · intro hends
    -- The roll ended with a number that settles it, or there is none in the limit.
    rcases exploding_cases_of_stream hends modifier s with
      ⟨k, hk, hlimit, hok⟩ | ⟨hmany, hexceeded⟩
    · refine ⟨?_, ?_⟩
      · intro k' hk' _
        -- There is only one least number, so it is the roll's.
        obtain rfl := hk.unique hk'
        exact ⟨_, hok, rfl, rfl, Outcome.total_ofFaces _ _,
          fun hfits => Outcome.toInt_total_ofFaces hfits⟩
      · intro hnone
        exact absurd ⟨k, hk, hlimit⟩ hnone
    · refine ⟨?_, ?_⟩
      · intro k' hk' hlimit
        have hgreater := hmany k' hk'.1
        exact absurd hlimit (Nat.not_le_of_gt hgreater)
      · intro _
        exact hexceeded

/-- A tape that begins with two sixes and goes on with threes. -/
def sixesTape : Tape := ⟨fun i => if i < 2 then 6 else 3, 0⟩

/-- A die of six sides. -/
def singleDie (limit : Nat) : Pool := ⟨1, sixSided, limit⟩

/-- The first six explodes, and so does the one it adds: two explosions, of which the
second is one too many for a limit of one.  If every face explodes, nothing is drawn. -/
theorem exploding_closed_form_two_sixes :
    (∃ o, (singleDie 2).exploding none 4 sixesTape = (.ok o, { sixesTape with drawn := 3 }) ∧
      o.dice = [.counted 6, .counted 6, .counted 3] ∧ o.total.toInt = 19) ∧
    (singleDie 1).exploding none 4 sixesTape =
      (.error (.refused (.tooManyRolls 1)), { sixesTape with drawn := 2 }) ∧
    (singleDie 1).exploding (some 1) 4 sixesTape =
      (.error (.refused (.infiniteRolls ((singleDie 1).explodingRequest 1 4))), sixesTape) := by
  -- Fewer than three dice do not settle the roll, with any limit.
  have hleast (limit : Nat) :
      IsLeast {k | k = (singleDie limit).count.toNat +
        (singleDie limit).explosions 6 sixesTape k} 3 := by
    have hsettled : (singleDie limit).Settled 6 sixesTape 3 := rfl
    have hopen : ∀ j < 3, ¬ (singleDie 0).Settled 6 sixesTape j := by decide
    exact isLeast_settled hsettled hopen
  refine ⟨?_, ?_, ?_⟩
  · obtain ⟨-, hends⟩ := exploding_closed_form (singleDie 2) none 4 sixesTape
    obtain ⟨o, hok, hdice, -, -, htotal⟩ := (hends (by decide)).1 3 (hleast 2) (by decide)
    rw [after_tape] at hok
    refine ⟨o, hok, hdice.trans rfl, ?_⟩
    rw [htotal (Outcome.fits_of_length_lt (by decide) 4)]
    decide
  · obtain ⟨-, hends⟩ := exploding_closed_form (singleDie 1) none 4 sixesTape
    have hexceeded := (hends (by decide)).2 ?_
    · rwa [after_tape] at hexceeded
    · rintro ⟨k, hk, hlimit⟩
      obtain rfl := hk.unique (hleast 1)
      exact absurd hlimit (by decide)
  · exact (exploding_closed_form (singleDie 1) (some 1) 4 sixesTape).1 (by decide)

end ChatDice.Pool
