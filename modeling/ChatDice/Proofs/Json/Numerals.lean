import ChatDice.Json.Token
import ChatDice.Proofs.Text.Decimal
import ChatDice.Proofs.Text.Runs

/-! # JSON numerals read

    A numeral that JSON allows is read as it stands, if what follows cannot be taken
    for more of it.  Written integers are such numerals; they are read as the integer
    again, and with 64 bits they stay within double precision.

    - `Token.NumeralText`: what numerals look like.
    - `Token.readNumeral_append`: all of these are read.
    - `Token.numeralText_written`: what is written is one of them.
    - `Numeral.integer?_ofInt`: a written integer is read as that integer.
    - `Numeral.isFinite_of_integer?`: integers of 64 bits make sense as they are.
-/

namespace ChatDice.Json

/-! ## Allowed numerals -/

/-- What JSON allows as a numeral: digits where digits must be, and no zero in
front of others. -/
structure Numeral.WellFormed (n : Numeral) : Prop where
  whole_isDigit    : ∀ c ∈ n.whole, c.isDigit = true
  whole_ne_nil     : n.whole ≠ []
  leading_zero     : n.whole.head? = some '0' → n.whole = ['0']
  fraction_isDigit : ∀ c ∈ n.fraction, c.isDigit = true
  exponent_isDigit : ∀ p ∈ n.exponent, ∀ c ∈ p.2, c.isDigit = true
  exponent_ne_nil  : ∀ p ∈ n.exponent, p.2 ≠ []

namespace Token

/-- A text that cannot go on with a numeral before it. -/
def EndsNumeral (rest : List Char) : Prop :=
  ∀ c ∈ rest.head?, c.isDigit = false ∧ c ≠ '.' ∧ c ≠ 'e' ∧ c ≠ 'E'

/-! ## Reading the parts -/

theorem readDigits_append {ds rest : List Char} (hds : ∀ c ∈ ds, c.isDigit = true)
    (hrest : ∀ c ∈ rest.head?, c.isDigit = false) : readDigits (ds ++ rest) = (ds, rest) := by
  rw [readDigits, Text.takeWhile_run hds hrest,
    Text.dropWhile_run hds hrest]

/-- The fraction as written. -/
def writtenFraction (ds : List Char) : List Char := if ds.isEmpty then [] else '.' :: ds

theorem readFraction_written {ds rest : List Char} (hds : ∀ c ∈ ds, c.isDigit = true)
    (hdigit : ∀ c ∈ rest.head?, c.isDigit = false) (hpoint : rest.head? ≠ some '.') :
    readFraction (writtenFraction ds ++ rest) = some (ds, rest) := by
  cases ds with
  | nil =>
    show readFraction rest = some ([], rest)
    rw [readFraction.eq_2]
    rintro s rfl
    exact hpoint rfl
  | cons d ds =>
    show readFraction ('.' :: (d :: ds ++ rest)) = some (d :: ds, rest)
    rw [readFraction, readDigits_append hds hdigit]
    rfl

/-- The sign of an exponent is not taken from its digits. -/
theorem readExponentSign_append {minus : Bool} {sign ds rest : List Char}
    (hsign : (minus, sign) ∈ [(false, []), (false, ['+']), (true, ['-'])])
    (hds : ∀ c ∈ ds, c.isDigit = true) (hne : ds ≠ []) :
    readExponentSign (sign ++ ds ++ rest) = (minus, ds ++ rest) := by
  simp only [List.mem_cons, List.not_mem_nil, or_false, Prod.mk.injEq] at hsign
  rcases hsign with ⟨rfl, rfl⟩ | ⟨rfl, rfl⟩ | ⟨rfl, rfl⟩
  · obtain ⟨d, ds, rfl⟩ := List.exists_cons_of_ne_nil hne
    have hd := hds d (by simp)
    -- The first digit is neither of the two signs.
    show readExponentSign (d :: (ds ++ rest)) = (false, d :: (ds ++ rest))
    rw [readExponentSign.eq_3]
    · rintro s h
      obtain ⟨rfl, -⟩ := List.cons.inj h
      exact absurd hd (by decide)
    · rintro s h
      obtain ⟨rfl, -⟩ := List.cons.inj h
      exact absurd hd (by decide)
  · rfl
  · rfl

/-- The texts of an exponent: a letter in either case, a sign, which is only needed
for a minus, and digits. -/
inductive ExponentText : Option (Bool × List Char) → List Char → Prop
  | none : ExponentText none []
  | some (letter : Char) {minus : Bool} (sign : List Char) {ds : List Char}
      (letter_mem : letter ∈ ['e', 'E'])
      (sign_mem : (minus, sign) ∈ [(false, []), (false, ['+']), (true, ['-'])])
      (isDigit : ∀ c ∈ ds, c.isDigit = true) (ne_nil : ds ≠ []) :
      ExponentText (some (minus, ds)) (letter :: (sign ++ ds))

theorem readExponent_append {x : Option (Bool × List Char)} {s rest : List Char}
    (h : ExponentText x s) (hrest : EndsNumeral rest) :
    readExponent (s ++ rest) = some (x, rest) := by
  match h with
  | .none =>
    show readExponent rest = some (none, rest)
    -- What follows is no letter of an exponent.
    match rest with
    | [] => rfl
    | c :: r =>
      obtain ⟨-, -, he, hE⟩ := hrest c rfl
      rw [readExponent, if_neg (by simp [he, hE])]
  | .some letter _ hletter hsign hds hne =>
    have hcase : letter = 'e' ∨ letter = 'E' := by simpa using hletter
    rw [List.cons_append, readExponent, if_pos hcase, readExponentSign_append hsign hds hne]
    dsimp only
    rw [readDigits_append hds fun c hc => (hrest c hc).1, if_neg]
    simpa using hne

/-- After the digits of a numeral comes its exponent, or what ends it. -/
theorem head?_exponentText {x : Option (Bool × List Char)} {s rest : List Char}
    (h : ExponentText x s) (hrest : EndsNumeral rest) {c : Char} (hc : c ∈ (s ++ rest).head?) :
    c.isDigit = false ∧ c ≠ '.' := by
  match h with
  | .none => exact ⟨(hrest c hc).1, (hrest c hc).2.1⟩
  | .some letter _ hletter _ _ _ =>
    obtain rfl : letter = c := Option.some.inj hc
    have hcase : letter = 'e' ∨ letter = 'E' := by simpa using hletter
    rcases hcase with rfl | rfl
    · decide
    · decide

theorem head?_writtenFraction (ds : List Char) {rest : List Char} {c : Char}
    (hrest : ∀ c ∈ rest.head?, c.isDigit = false)
    (hc : c ∈ (writtenFraction ds ++ rest).head?) : c.isDigit = false := by
  cases ds with
  | nil => exact hrest c hc
  | cons d ds =>
    obtain rfl : '.' = c := Option.some.inj hc
    rfl

/-! ## Whole numerals -/

/-- The texts of a numeral, which differ in how the exponent is written. -/
def NumeralText (n : Numeral) (s : List Char) : Prop :=
  n.WellFormed ∧ ∃ exponent, ExponentText n.exponent exponent ∧
    s = (if n.negative then ['-'] else []) ++
      (n.whole ++ (writtenFraction n.fraction ++ exponent))

theorem readUnsigned_append {n : Numeral} (hn : n.WellFormed) {exponent rest : List Char}
    (hexponent : ExponentText n.exponent exponent) (hrest : EndsNumeral rest) :
    readUnsigned n.negative (n.whole ++ (writtenFraction n.fraction ++ (exponent ++ rest))) =
      some (n, rest) := by
  have after_fraction : ∀ c ∈ (exponent ++ rest).head?, c.isDigit = false :=
    fun c hc => (head?_exponentText hexponent hrest hc).1
  have hwhole := readDigits_append hn.whole_isDigit
    (fun _ => head?_writtenFraction n.fraction after_fraction)
  have hfraction := readFraction_written hn.fraction_isDigit after_fraction
    (fun h => (head?_exponentText hexponent hrest h).2 rfl)
  -- A zero stands in front only where it stands alone.
  have allowed : (n.whole.isEmpty || (n.whole.head? == some '0' && n.whole != ['0'])) = false := by
    have hempty : n.whole.isEmpty = false := by simpa using hn.whole_ne_nil
    rw [hempty, Bool.false_or, Bool.and_eq_false_imp]
    intro hzero
    simpa using hn.leading_zero (by simpa using hzero)
  simp only [readUnsigned, hwhole, allowed, hfraction, readExponent_append hexponent hrest,
    Bool.false_eq_true, if_false]

/-- A numeral starts with a sign or a digit. -/
theorem exists_cons_numeralText {n : Numeral} {s : List Char} (h : NumeralText n s) :
    ∃ c r, s = c :: r ∧ (c = '-' ∨ c.isDigit = true) := by
  obtain ⟨hn, exponent, -, rfl⟩ := h
  obtain ⟨d, ds, hwhole⟩ := List.exists_cons_of_ne_nil hn.whole_ne_nil
  have hd : d.isDigit = true := hn.whole_isDigit d (hwhole ▸ List.mem_cons_self)
  rw [hwhole]
  by_cases hneg : n.negative = true
  · rw [if_pos hneg]
    exact ⟨'-', _, rfl, .inl rfl⟩
  · rw [if_neg hneg]
    exact ⟨d, _, rfl, .inr hd⟩

/-- A numeral is read if what follows ends it. -/
theorem readNumeral_append {n : Numeral} {s rest : List Char} (h : NumeralText n s)
    (hrest : EndsNumeral rest) : readNumeral (s ++ rest) = some (n, rest) := by
  obtain ⟨hn, exponent, hexponent, rfl⟩ := h
  have unsigned := readUnsigned_append hn hexponent hrest
  simp only [List.append_assoc]
  by_cases hneg : n.negative = true
  · rw [if_pos hneg]
    rw [hneg] at unsigned
    exact unsigned
  · rw [if_neg hneg, List.nil_append]
    rw [Bool.not_eq_true] at hneg
    rw [hneg] at unsigned
    obtain ⟨d, ds, hwhole⟩ := List.exists_cons_of_ne_nil hn.whole_ne_nil
    have hd : d.isDigit = true := hn.whole_isDigit d (hwhole ▸ List.mem_cons_self)
    rw [hwhole, List.cons_append] at unsigned ⊢
    rw [readNumeral.eq_2 _ ?_]
    · exact unsigned
    · -- The first digit is no minus sign.
      intro t ht
      obtain ⟨rfl, -⟩ := List.cons.inj ht
      exact absurd hd (by decide)

/-- The exponent as written: it has the small letter, and no plus sign. -/
def writtenExponent : Option (Bool × List Char) → List Char
  | none             => []
  | some (minus, ds) => 'e' :: (if minus then '-' :: ds else ds)

theorem exponentText_written {n : Numeral} (hn : n.WellFormed) :
    ExponentText n.exponent (writtenExponent n.exponent) := by
  match hexponent : n.exponent with
  | none => exact .none
  | some (minus, ds) =>
    have hds := hn.exponent_isDigit _ hexponent
    have hne := hn.exponent_ne_nil _ hexponent
    match minus with
    | false => exact .some 'e' [] (by simp) (by simp) hds hne
    | true  => exact .some 'e' ['-'] (by simp) (by simp) hds hne

/-- A numeral that JSON allows is written as one of its texts. -/
theorem numeralText_written {n : Numeral} (hn : n.WellFormed) : NumeralText n n.written := by
  refine ⟨hn, _, exponentText_written hn, ?_⟩
  simp only [Numeral.written, List.append_assoc]
  rfl

end Token

/-! ## Integers -/

namespace Numeral

theorem wellFormed_ofInt (i : Int) : (ofInt i).WellFormed where
  whole_isDigit _ hc := Decimal.isDigit_of_mem_digits hc
  whole_ne_nil       := Decimal.digits_ne_nil _
  leading_zero hzero := by
    rcases Nat.eq_zero_or_pos i.natAbs with h | h
    · simp only [ofInt, h, Decimal.digits_zero]
    · exact absurd hzero (Decimal.head?_digits_ne_zero h)
  fraction_isDigit   := by simp [ofInt]
  exponent_isDigit   := by simp [ofInt]
  exponent_ne_nil    := by simp [ofInt]

/-- A written integer is that integer; zero is written without a minus sign. -/
@[simp] theorem integer?_ofInt (i : Int) : (ofInt i).integer? = some i := by
  simp only [integer?, ofInt, List.isEmpty_nil, Option.isNone_none, Bool.and_self, if_true,
    Decimal.value_digits, decide_eq_true_eq]
  split
  · rw [if_neg (by omega)]
    congr 1
    omega
  · congr 1
    omega

/-- Digits of a number with 64 bits are all gathered. -/
theorem gather_eq {s : Nat} {ds : List Char}
    (h : ds.foldl (fun n c => 10 * n + Decimal.digitValue c) s ≤ most64) :
    gather s ds = (ds.foldl (fun n c => 10 * n + Decimal.digitValue c) s, 0) := by
  have grows (t : Nat) (ds : List Char) :
      t ≤ ds.foldl (fun n c => 10 * n + Decimal.digitValue c) t := by
    induction ds generalizing t with
    | nil => exact Nat.le_refl t
    | cons d ds ih =>
      have : t ≤ 10 * t + Decimal.digitValue d := by omega
      exact Nat.le_trans this (ih _)
  induction ds generalizing s with
  | nil => rfl
  | cons d ds ih =>
    -- What is gathered never shrinks, so it stays small enough at every digit.
    have hnext := Nat.le_trans (grows _ ds) h
    rw [gather, Nat.mul_comm s 10, if_neg (Nat.not_lt.2 hnext), ih h]
    rfl

/-- Rounding adds less than the number itself and one. -/
theorem round53_le (n : Nat) : round53 n ≤ n + Nat.pow 2 (n.log2 + 1 - 53) := by
  have hdiv := Nat.div_mul_le_self n (Nat.pow 2 (n.log2 + 1 - 53))
  unfold round53
  dsimp only
  generalize Nat.pow 2 (n.log2 + 1 - 53) = unit at hdiv ⊢
  split
  · rw [Nat.add_mul, Nat.one_mul]
    omega
  · omega

theorem finiteScaled_zero {n : Nat} (h : n ≤ most64) : finiteScaled n 0 = true := by
  have hlog : n.log2 + 1 - 53 ≤ 64 := by
    have : n.log2 < 64 ∨ n = 0 := by
      rcases Nat.eq_zero_or_pos n with hzero | hpos
      · exact .inr hzero
      · exact .inl ((Nat.log2_lt (by omega)).2 (Nat.lt_of_le_of_lt h (by decide)))
    rcases this with hlt | rfl
    · omega
    · decide
  have hpow : Nat.pow 2 (n.log2 + 1 - 53) ≤ Nat.pow 2 64 :=
    Nat.pow_le_pow_right (by decide) hlog
  have hround := round53_le n
  -- Rounding at most doubles the bound, which is far below the overflow.
  have one : round53 (Nat.pow 10 (0 : Int).toNat) = 1 := by decide
  have room : most64 + Nat.pow 2 64 < overflowPoint := by decide +kernel
  unfold finiteScaled
  split
  · rfl
  · rw [if_neg (by decide), one]
    simp only [decide_eq_true_eq]
    omega

/-- A numeral that is an integer of 64 bits stays within double precision. -/
theorem isFinite_of_integer? {n : Numeral} {i : Int} (hn : n.integer? = some i)
    (hi : i.natAbs ≤ most64) : n.isFinite = true := by
  unfold integer? at hn
  split at hn
  · next hplain =>
    obtain ⟨hfraction, hexponent⟩ := (Bool.and_eq_true _ _).mp hplain
    -- Without fraction and exponent the value is that of the digits.
    have hvalue : Decimal.value n.whole = i.natAbs := by
      dsimp only at hn
      split at hn
      · split at hn
        · cases hn
        · cases hn
          omega
      · cases hn
        rfl
    have hdigits : Decimal.value n.whole ≤ most64 := Nat.le_trans (Nat.le_of_eq hvalue) hi
    have gathered : gather 0 n.whole = (i.natAbs, 0) := by
      rw [← hvalue]
      exact gather_eq hdigits
    simp only [isFinite, gathered, List.isEmpty_iff.1 hfraction, Option.isNone_iff_eq_none.1 hexponent,
      gather]
    exact finiteScaled_zero hi
  · cases hn

end Numeral

end ChatDice.Json
