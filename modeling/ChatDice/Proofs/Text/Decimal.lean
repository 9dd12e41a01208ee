import ChatDice.Text.Basic

/-! # Decimal numbers read back

    What is known of written digits, and what `value` makes of them.

    - `value_digits`, `value_padded`: digits denote the number they were written
      for, with or without zeros in front.
    - `digits_inj`, `signed_inj`: numbers with the same text are the same.
    - `value_lt`: no more digits, no larger number.
    - `head?_digits_ne_zero`: there is no leading zero.
-/

namespace ChatDice.Decimal

/-! ## Digits -/

theorem isDigit_of_mem_digits {n : Nat} {c : Char} (h : c ∈ digits n) : c.isDigit = true :=
  Nat.isDigit_of_mem_toDigits (by decide) (by decide) h

@[simp] theorem digits_ne_nil (n : Nat) : digits n ≠ [] := Nat.toDigits_ne_nil

@[simp] theorem digits_zero : digits 0 = ['0'] := Nat.toDigits_zero 10

/-- A positive number starts with a digit other than zero. -/
theorem head?_digits_ne_zero {n : Nat} (h : 0 < n) : (digits n).head? ≠ some '0' := by
  have digitChar_ne : ∀ d : Fin 10, 0 < d.val → Nat.digitChar d ≠ '0' := by decide
  induction n using Nat.strongRecOn with
  | _ n ih =>
    unfold digits at ih ⊢
    rw [Nat.toDigits_eq_if (by decide)]
    split
    · next small => simpa using digitChar_ne ⟨n, small⟩ h
    · have first := ih (n / 10) (by omega) (by omega)
      obtain ⟨d, ds, hds⟩ := List.exists_cons_of_ne_nil (digits_ne_nil (n / 10))
      unfold digits at hds
      rw [hds] at first ⊢
      simpa using first

/-! ## Padded digits -/

theorem isDigit_of_mem_padded {w n : Nat} {c : Char} (h : c ∈ padded w n) :
    c.isDigit = true := by
  rcases List.mem_append.1 h with hzero | hdigit
  · rw [List.eq_of_mem_replicate hzero]
    rfl
  · exact isDigit_of_mem_digits hdigit

theorem length_padded {width n : Nat} (hw : 0 < width) (h : n < Nat.pow 10 width) :
    (padded width n).length = width := by
  have hlen : (digits n).length ≤ width := (Nat.length_toDigits_le_iff (by decide) hw).2 h
  rw [padded, List.length_append, List.length_replicate]
  omega

@[simp] theorem padded_ne_nil (width n : Nat) : padded width n ≠ [] := by
  simp [padded]

/-! ## Values -/

theorem value_eq_ofDigitChars (ds : List Char) : value ds = Nat.ofDigitChars 10 ds 0 := rfl

/-- Digits denote the number they were written for. -/
@[simp] theorem value_digits (n : Nat) : value (digits n) = n := Nat.ofDigitChars_ten_toDigits

theorem digits_inj {m n : Nat} (h : digits m = digits n) : m = n := by
  rw [← value_digits m, h, value_digits]

/-- The sign is part of the text. -/
theorem signed_inj {i j : Int} (h : signed i = signed j) : i = j := by
  obtain ⟨hsign, hdigits⟩ := List.cons.inj h
  have habs : i.natAbs = j.natAbs := digits_inj hdigits
  split at hsign
  · split at hsign
    · omega
    · exact absurd hsign (by decide)
  · split at hsign
    · exact absurd hsign (by decide)
    · omega

/-- Three digits go as far as 999. -/
theorem length_digits_le_three {n : Nat} : (digits n).length ≤ 3 ↔ n ≤ 999 := by
  rw [digits, Nat.length_toDigits_le_iff (by decide) (by decide)]
  omega

/-- Zeros in front change nothing. -/
@[simp] theorem value_padded (width n : Nat) : value (padded width n) = n := by
  rw [value_eq_ofDigitChars, padded, Nat.ofDigitChars_append, Nat.ofDigitChars_replicate_zero,
    Nat.mul_zero]
  exact value_digits n

theorem digitValue_le {c : Char} (h : c.isDigit = true) : digitValue c ≤ 9 := by
  simp only [Char.isDigit, Bool.and_eq_true, decide_eq_true_eq] at h
  have hhigh : c.toNat ≤ 57 := h.2
  unfold digitValue
  omega

/-- Some digits denote a number below the power of ten of as many places. -/
theorem value_lt {ds : List Char} (h : ∀ c ∈ ds, c.isDigit = true) :
    value ds < Nat.pow 10 ds.length := by
  induction ds with
  | nil => decide
  | cons c ds ih =>
    have hfirst : digitValue c ≤ 9 := digitValue_le (h c List.mem_cons_self)
    have hrest := ih fun d hd => h d (List.mem_cons_of_mem c hd)
    -- The first digit counts as often as there are values of the others.
    have hvalue : value (c :: ds) = Nat.pow 10 ds.length * digitValue c + value ds := by
      rw [value_eq_ofDigitChars, Nat.ofDigitChars_cons, Nat.ofDigitChars_eq_ofDigitChars_zero,
        Nat.mul_zero, Nat.zero_add]
      rfl
    have hplaces : Nat.pow 10 ds.length * digitValue c ≤ Nat.pow 10 ds.length * 9 :=
      Nat.mul_le_mul_left _ hfirst
    have hsucc : Nat.pow 10 (ds.length + 1) = Nat.pow 10 ds.length * 10 := rfl
    rw [hvalue, List.length_cons, hsucc]
    omega

end ChatDice.Decimal
