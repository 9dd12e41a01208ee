import ChatDice.Text.Basic

/-! # Classes of characters

    Letters and digits are ASCII characters and no white space.

    - `of_ascii`: what can be checked for the 128 characters of ASCII holds of all
      of them.
    - `isBlank_of_isAlphanum`, `isBlank_of_isDigit`: the classes have no character in
      common.
-/

namespace ChatDice.Text

/-- What holds of the first 128 characters by inspection holds of all in ASCII. -/
theorem of_ascii {P : Char → Prop} (h : ∀ n : Fin 128, P (Char.ofNat n)) {c : Char}
    (hc : c.toNat < 128) : P c := by
  have := h ⟨c.toNat, hc⟩
  rwa [Char.ofNat_toNat] at this

/-! ## Letters and digits -/

/-- The three ranges end in ASCII. -/
theorem ascii_of_isAlphanum {c : Char} (h : c.isAlphanum = true) : c.toNat < 128 := by
  have hclasses : ((c.isUpper || c.isLower) || c.isDigit) = true := h
  rw [Bool.or_eq_true, Bool.or_eq_true] at hclasses
  rcases hclasses with (hupper | hlower) | hdigit
  · have hlast : c.val ≤ 90 := (of_decide_eq_true hupper).2
    exact Nat.lt_of_le_of_lt (UInt32.le_iff_toNat_le.1 hlast) (by decide)
  · have hlast : c.val ≤ 122 := of_decide_eq_true (Bool.and_eq_true_iff.1 hlower).2
    exact Nat.lt_of_le_of_lt (UInt32.le_iff_toNat_le.1 hlast) (by decide)
  · have hlast : c.val ≤ 57 := of_decide_eq_true (Bool.and_eq_true_iff.1 hdigit).2
    exact Nat.lt_of_le_of_lt (UInt32.le_iff_toNat_le.1 hlast) (by decide)

theorem isBlank_of_isAlphanum {c : Char} (h : c.isAlphanum = true) : isBlank c = false :=
  of_ascii (P := fun c => c.isAlphanum = true → isBlank c = false) (by decide)
    (ascii_of_isAlphanum h) h

theorem isAlphanum_of_isBlank {c : Char} (h : isBlank c = true) : c.isAlphanum = false := by
  rw [← Bool.not_eq_true]
  intro halnum
  rw [isBlank_of_isAlphanum halnum] at h
  cases h

theorem isBlank_of_isDigit {c : Char} (h : c.isDigit = true) : isBlank c = false := by
  apply isBlank_of_isAlphanum
  rw [Char.isAlphanum, h, Bool.or_true]

theorem isDigit_of_isBlank {c : Char} (h : isBlank c = true) : c.isDigit = false := by
  rw [← Bool.not_eq_true]
  intro hdigit
  rw [isBlank_of_isDigit hdigit] at h
  cases h

end ChatDice.Text
