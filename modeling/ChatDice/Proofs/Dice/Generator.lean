import ChatDice.Proofs.Dice.Draws

/-! # The generator never ends and stays in range

    The generator redraws until the low half of a value is large enough, so it could
    only fail if no state led to such a value.  But the state steps by an odd constant
    and so goes through all 64-bit words, and one of them leads to a value that is large
    enough for any number of sides.  The high half is a face, redrawn or not.

    - `exists_skip_eq`: every state is reached from every other, within a period.
    - `le_scaled_settling`: a state after which nothing is redrawn.
    - `unbiased_ne_none`, `die_ne_none`: so redrawing comes to an end.
    - `below_lt`, `die_bounds`: whatever is drawn is a face of the die.
-/

namespace ChatDice.Wyrand

/-! ## Steps -/

/-- What a step adds to the state. -/
def increment : UInt64 := 0x2d358dccaa6c78a5

/-- The inverse of the increment. -/
def inverse : UInt64 := 0x32e25c49d2beaf2d

theorem inverse_mul_increment : inverse * increment = 1 := by decide

/-- The generator after `n` more steps. -/
def skip (g : Wyrand) (n : Nat) : Wyrand := ⟨g.state + UInt64.ofNat n * increment⟩

@[simp] theorem skip_zero (g : Wyrand) : g.skip 0 = g := by
  simp [skip]

theorem snd_scaled (g : Wyrand) (n : Nat) : (g.scaled n).2 = g.skip 1 := by
  rw [skip, UInt64.ofNat_one, UInt64.one_mul]
  rfl

theorem skip_skip (g : Wyrand) (m n : Nat) : (g.skip m).skip n = g.skip (m + n) := by
  rw [skip, skip, skip, UInt64.ofNat_add, UInt64.add_mul, UInt64.add_assoc]

/-- The increment is odd, so the state goes through all words. -/
theorem exists_skip_eq (g g' : Wyrand) : ∃ n < UInt64.size, g.skip n = g' := by
  refine ⟨((g'.state - g.state) * inverse).toNat, UInt64.toNat_lt_size _, ?_⟩
  rw [skip, UInt64.ofNat_toNat, UInt64.mul_assoc, inverse_mul_increment, UInt64.mul_one,
    UInt64.add_comm, UInt64.sub_add_cancel]

/-! ## Redrawing -/

/-- Redrawing ends at the first low half that reaches the bound. -/
theorem unbiased_ne_none {n bound fuel : Nat} {g : Wyrand}
    (h : ∃ i < fuel, bound ≤ ((g.skip i).scaled n).1 % UInt32.size) :
    unbiased n bound fuel g ≠ none := by
  -- After a redraw the state that ends it is one step nearer.
  induction fuel generalizing g with
  | zero =>
    obtain ⟨i, hi, -⟩ := h
    exact absurd hi (Nat.not_lt_zero i)
  | succ fuel ih =>
    obtain ⟨i, hi, hbound⟩ := h
    unfold unbiased
    dsimp only
    split
    · next hlow =>
      cases i with
      | zero =>
        rw [skip_zero] at hbound
        exact absurd hlow (Nat.not_lt.2 hbound)
      | succ i =>
        refine ih ⟨i, Nat.lt_of_succ_lt_succ hi, ?_⟩
        rwa [snd_scaled, skip_skip, Nat.add_comm 1 i]
    · exact Option.some_ne_none _

/-- A state whose next value has 20076 for its low half. -/
def settling : Wyrand := ⟨99634 - increment⟩

/-- For any number of sides the low half reaches that number, and more so the bound. -/
theorem le_scaled_settling {n : Nat} (h : n < UInt16.size) :
    n ≤ (settling.scaled n).1 % UInt32.size := by
  have hlow : settling.step.1.toNat % UInt32.size = 20076 := by decide +kernel
  show n ≤ settling.step.1.toNat % UInt32.size * n % UInt32.size
  -- A product of these sizes keeps within 32 bits, so it is its own low half.
  rw [hlow, Nat.mod_eq_of_lt]
  · omega
  · simp only [UInt16.size, UInt32.size] at h ⊢
    omega

theorem below_ne_none {n : Nat} (h : n < UInt16.size) (g : Wyrand) : g.below n ≠ none := by
  unfold below
  dsimp only
  split
  · next hlow =>
    split
    · have hbound : (UInt32.size - n) % n < n := Nat.mod_lt _ (by omega)
      obtain ⟨i, hi, hsettling⟩ := exists_skip_eq (g.scaled n).2 settling
      rw [Ne, Option.map_eq_none_iff]
      refine unbiased_ne_none ⟨i, hi, ?_⟩
      rw [hsettling]
      exact Nat.le_trans (Nat.le_of_lt hbound) (le_scaled_settling h)
    · exact Option.some_ne_none _
  · exact Option.some_ne_none _

/-- Every die gets a value. -/
theorem die_ne_none (g : Wyrand) (sides : UInt16) : g.die sides ≠ none := by
  unfold die
  split
  · exact Option.some_ne_none _
  · rw [Ne, Option.map_eq_none_iff]
    exact below_ne_none sides.toNat_lt_size g

instance : UnendingSource Wyrand where
  next_ne_none := die_ne_none

/-! ## Values -/

/-- A scaled value is below so many full words. -/
theorem fst_scaled_lt {n : Nat} (h : 0 < n) (g : Wyrand) : (g.scaled n).1 < UInt32.size * n := by
  have hlow : g.step.1.toNat % UInt32.size < UInt32.size := Nat.mod_lt _ (by decide)
  exact Nat.mul_lt_mul_of_pos_right hlow h

/-- Redrawing gives a scaled value, too. -/
theorem unbiased_lt {n bound fuel p : Nat} {g g' : Wyrand} (hn : 0 < n)
    (h : unbiased n bound fuel g = some (p, g')) : p < UInt32.size * n := by
  induction fuel generalizing g with
  | zero => cases h
  | succ fuel ih =>
    unfold unbiased at h
    dsimp only at h
    split at h
    · exact ih h
    · cases h
      exact fst_scaled_lt hn g

/-- The high half of a scaled value is below the scale. -/
theorem below_lt {n v : Nat} {g g' : Wyrand} (hn : 0 < n) (h : g.below n = some (v, g')) :
    v < n := by
  have high_lt : ∀ {p : Nat}, p < UInt32.size * n → p / UInt32.size < n :=
    fun hp => Nat.div_lt_of_lt_mul hp
  unfold below at h
  dsimp only at h
  split at h
  · split at h
    · obtain ⟨⟨p, g''⟩, hp, hv⟩ := Option.map_eq_some_iff.1 h
      cases hv
      exact high_lt (unbiased_lt hn hp)
    · cases h
      exact high_lt (fst_scaled_lt hn g)
  · cases h
    exact high_lt (fst_scaled_lt hn g)

/-- Every value for a die is one of its faces. -/
theorem die_bounds {g g' : Wyrand} {sides v : UInt16} (hsides : 0 < sides)
    (h : g.die sides = some (v, g')) : 1 ≤ v ∧ v ≤ sides := by
  have hpos : 0 < sides.toNat := UInt16.lt_iff_toNat_lt.1 hsides
  have hsize := sides.toNat_lt_size
  unfold die at h
  rw [if_neg (UInt16.ne_of_lt hsides).symm] at h
  obtain ⟨⟨n, g''⟩, hn, hv⟩ := Option.map_eq_some_iff.1 h
  cases hv
  have hbelow := below_lt hpos hn
  have hface : (UInt16.ofNat (1 + n)).toNat = 1 + n := UInt16.toNat_ofNat_of_lt' (by omega)
  rw [UInt16.le_iff_toNat_le, UInt16.le_iff_toNat_le, hface]
  exact ⟨Nat.le_add_right 1 n, by omega⟩

end ChatDice.Wyrand
