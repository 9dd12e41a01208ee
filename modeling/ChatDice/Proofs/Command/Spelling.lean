import ChatDice.Proofs.Command.Layout

/-! # How commands are spelled

    The parts of a command as they are typed, in lower case.  A specification is
    spelled with a dice count, the letter `d`, sides, perhaps a sign and a number,
    and the suffix of a kind, which may be followed by a threshold.  Numbers have
    one to three digits.

    - `Specification`, `RollText`, `RerollText`: the parts, and in `chars` the text
      that they make up.
    - `Specification.Denotes`: the request that is meant, number by number.
    - `Specification.layout`: what is typed is a text in the form of requests.
    - `Specification.chars_append_inj`, `RollText.chars_inj`: parts are spelled in one
      way only, so a text has at most one reading.
-/

namespace ChatDice.Command

/-! ## Numbers -/

/-- A number as it is typed. -/
@[ext]
structure Number where
  digits    : List Char
  ne_nil    : digits ≠ []
  length_le : digits.length ≤ 3
  isDigit   : ∀ c ∈ digits, c.isDigit = true

/-- What the digits denote. -/
def Number.value (n : Number) : Nat := Decimal.value n.digits

/-- Three digits go no further than 999. -/
theorem Number.value_le (n : Number) : n.value ≤ 999 := by
  have hvalue : n.value < 10 ^ n.digits.length := Decimal.value_lt n.isDigit
  have hpower : 10 ^ n.digits.length ≤ 10 ^ 3 := Nat.pow_le_pow_right (by decide) n.length_le
  omega

/-- A number that may be left out. -/
def optionalDigits : Option Number → List Char
  | none   => []
  | some n => n.digits

theorem isDigit_of_mem_optionalDigits {n : Option Number} {c : Char} (h : c ∈ optionalDigits n) :
    c.isDigit = true := by
  cases n with
  | none => cases h
  | some n => exact n.isDigit c h

/-- The digits tell whether there is a number, and which. -/
theorem optionalDigits_inj {n n' : Option Number} (h : optionalDigits n = optionalDigits n') :
    n = n' := by
  cases n with
  | none =>
    cases n' with
    | none => rfl
    | some n' => exact absurd h.symm n'.ne_nil
  | some n =>
    cases n' with
    | none => exact absurd h n.ne_nil
    | some n' => exact congrArg some (Number.ext h)

/-! ## Modifiers -/

/-- A number with a sign. -/
@[ext]
structure Signed where
  negative : Bool
  number   : Number

namespace Signed

def sign (m : Signed) : Char := if m.negative then '-' else '+'

def chars (m : Signed) : List Char := m.sign :: m.number.digits

/-- What sign and digits denote. -/
def value (m : Signed) : Int := if m.negative then -(m.number.value : Int) else m.number.value

theorem sign_mem (m : Signed) : m.sign ∈ ['+', '-'] := by
  unfold sign
  split <;> simp

theorem sign_inj {m m' : Signed} (h : m.sign = m'.sign) : m.negative = m'.negative := by
  unfold sign at h
  cases hm : m.negative <;> cases hm' : m'.negative <;> simp_all

theorem natAbs_value_le (m : Signed) : m.value.natAbs ≤ 999 := by
  have h := m.number.value_le
  unfold value
  split <;> omega

end Signed

/-- A modifier that may be left out. -/
def optionalModifier : Option Signed → List Char
  | none   => []
  | some m => m.chars

/-- The text tells whether there is a modifier, and which. -/
theorem optionalModifier_inj {m m' : Option Signed} (h : optionalModifier m = optionalModifier m') :
    m = m' := by
  cases m with
  | none =>
    cases m' with
    | none => rfl
    | some m' => cases h
  | some m =>
    cases m' with
    | none => cases h
    | some m' =>
      obtain ⟨hsign, hdigits⟩ := List.cons.inj h
      exact congrArg some (Signed.ext (Signed.sign_inj hsign) (Number.ext hdigits))

/-! ## Specifications -/

/-- The suffix of a kind, which is empty for a normal roll, and a threshold, which
only some kinds take. -/
@[ext]
structure Suffix where
  kind          : RollKind
  threshold     : Option Number
  usesThreshold : threshold ≠ none → kind.usesThreshold = true

def Suffix.chars (x : Suffix) : List Char := x.kind.suffix ++ optionalDigits x.threshold

/-- The parts of a specification. -/
@[ext]
structure Specification where
  count    : Number
  sides    : Number
  modifier : Option Signed
  suffix   : Suffix

namespace Specification

/-- The parts in a row. -/
def chars (t : Specification) : List Char :=
  t.count.digits ++ 'd' :: (t.sides.digits ++ (optionalModifier t.modifier ++ t.suffix.chars))

/-- The request has the values that are spelled, and no modifier is one of zero. -/
structure Denotes (t : Specification) (q : Request) : Prop where
  kind      : q.kind = t.suffix.kind
  count     : q.count.toNat = t.count.value
  sides     : q.sides.toNat = t.sides.value
  modifier  : q.modifier.toInt = (t.modifier.map Signed.value).getD 0
  threshold : q.threshold.map UInt16.toNat = t.suffix.threshold.map Number.value

/-- Whatever is spelled is small. -/
theorem Denotes.bounded {t : Specification} {q : Request} (h : t.Denotes q) :
    q.count.toNat ≤ 999 ∧ q.sides.toNat ≤ 999 ∧ q.modifier.toInt.natAbs ≤ 999 ∧
      ∀ n ∈ q.threshold, n.toNat ≤ 999 := by
  refine ⟨h.count ▸ t.count.value_le, h.sides ▸ t.sides.value_le, ?_, ?_⟩
  · rw [h.modifier]
    cases t.modifier with
    | none => decide
    | some m => exact m.natAbs_value_le
  · intro n hn
    have hthreshold := h.threshold
    rw [hn] at hthreshold
    obtain ⟨d, -, hd⟩ := Option.map_eq_some_iff.1 hthreshold.symm
    exact hd ▸ d.value_le

end Specification

/-! ## Parts of a layout -/

theorem isModifier_optionalModifier (m : Option Signed) : IsModifier (optionalModifier m) := by
  cases m with
  | none => exact .inl rfl
  | some m => exact .inr ⟨m.sign, m.number.digits, rfl, m.sign_mem, m.number.isDigit⟩

namespace Suffix

/-- A normal roll takes no threshold. -/
theorem threshold_of_normal {x : Suffix} (h : x.kind = .normal) : x.threshold = none := by
  by_cases hnone : x.threshold = none
  · exact hnone
  · have huses := x.usesThreshold hnone
    rw [h] at huses
    cases huses

/-- A normal roll is spelled without suffix. -/
theorem chars_of_normal {x : Suffix} (h : x.kind = .normal) : x.chars = [] := by
  rw [chars, h, threshold_of_normal h]
  rfl

theorem chars_append (x : Suffix) (rest : List Char) :
    x.chars ++ rest = x.kind.suffix ++ (optionalDigits x.threshold ++ rest) :=
  List.append_assoc _ _ _

theorem noNumber_chars (x : Suffix) {rest : List Char} (hrest : Apart rest) :
    NoNumber (x.chars ++ rest) := by
  rw [chars_append]
  exact noNumber_suffix (fun hk => congrArg optionalDigits (threshold_of_normal hk)) hrest

end Suffix

/-! ## Parts are spelled in one way -/

namespace Specification

theorem chars_append (t : Specification) (rest : List Char) :
    t.chars ++ rest = t.count.digits ++ 'd' :: (t.sides.digits ++ (optionalModifier t.modifier ++
      (t.suffix.chars ++ rest))) := by
  simp only [chars, List.append_assoc, List.cons_append]

/-- The parts as those of a text in the form of requests. -/
def layout (t : Specification) : Layout where
  count               := t.count.digits
  sides               := t.sides.digits
  modifier            := optionalModifier t.modifier
  kind                := t.suffix.kind
  threshold           := optionalDigits t.suffix.threshold
  isDigit_count       := t.count.isDigit
  isDigit_sides       := t.sides.isDigit
  isModifier          := isModifier_optionalModifier t.modifier
  isDigit_threshold   := fun _ hc => isDigit_of_mem_optionalDigits hc
  threshold_of_normal := fun hk => congrArg optionalDigits (Suffix.threshold_of_normal hk)

@[simp] theorem chars_layout (t : Specification) : t.layout.chars = t.chars := rfl

/-- A specification is known by the texts of its parts. -/
theorem layout_inj {t t' : Specification} (h : t.layout = t'.layout) : t = t' := by
  have hcount : t.count.digits = t'.count.digits := congrArg Layout.count h
  have hsides : t.sides.digits = t'.sides.digits := congrArg Layout.sides h
  have hmodifier : optionalModifier t.modifier = optionalModifier t'.modifier :=
    congrArg Layout.modifier h
  have hkind : t.suffix.kind = t'.suffix.kind := congrArg Layout.kind h
  have hthreshold : optionalDigits t.suffix.threshold = optionalDigits t'.suffix.threshold :=
    congrArg Layout.threshold h
  exact Specification.ext (Number.ext hcount) (Number.ext hsides) (optionalModifier_inj hmodifier)
    (Suffix.ext hkind (optionalDigits_inj hthreshold))

/-- A specification is spelled in one way, wherever white space or nothing follows. -/
theorem chars_append_inj {t t' : Specification} {rest rest' : List Char}
    (h : t.chars ++ rest = t'.chars ++ rest') (hrest : Apart rest) (hrest' : Apart rest') :
    t = t' ∧ rest = rest' := by
  rw [← chars_layout, ← chars_layout] at h
  obtain ⟨hlayout, hafter⟩ := Layout.chars_append_inj h hrest hrest'
  exact ⟨layout_inj hlayout, hafter⟩

end Specification

/-! ## Commands -/

/-- The parts of a roll command: the keyword, white space, a specification, and
nothing or white space and anything. -/
@[ext]
structure RollText where
  blanks     : List Char
  spec       : Specification
  tail       : List Char
  ne_nil     : blanks ≠ []
  isBlank    : ∀ c ∈ blanks, Text.isBlank c = true
  apart_tail : Apart tail

/-- The parts in a row. -/
def RollText.chars (t : RollText) : List Char :=
  rollKeyword ++ (t.blanks ++ (t.spec.chars ++ t.tail))

/-- The parts of a reroll command: the keyword, white space, a token made of letters
and digits, and perhaps more white space. -/
structure RerollText where
  blanks        : List Char
  token         : List Char
  after         : List Char
  ne_nil        : blanks ≠ []
  isBlank       : ∀ c ∈ blanks, Text.isBlank c = true
  token_ne_nil  : token ≠ []
  isAlphanum    : ∀ c ∈ token, c.isAlphanum = true
  isBlank_after : ∀ c ∈ after, Text.isBlank c = true

/-- The parts in a row. -/
def RerollText.chars (t : RerollText) : List Char :=
  rerollKeyword ++ (t.blanks ++ (t.token ++ t.after))

/-- A specification starts with a digit, so white space before it ends there. -/
theorem Specification.head?_chars (t : Specification) (rest : List Char) :
    ∀ c ∈ (t.chars ++ rest).head?, Text.isBlank c = false := by
  have hcount : ∀ c ∈ t.count.digits, Text.isBlank c = false := by
    intro c hc
    exact Text.isBlank_of_isDigit (t.count.isDigit c hc)
  rw [chars_append]
  exact Text.forall_head?_append t.count.ne_nil hcount _

/-- A roll command is spelled in one way. -/
theorem RollText.chars_inj {t t' : RollText} (h : t.chars = t'.chars) : t = t' := by
  have hparts := List.append_cancel_left h
  obtain ⟨hblanks, hparts⟩ := Text.run_unique hparts t.isBlank t'.isBlank
    (t.spec.head?_chars t.tail) (t'.spec.head?_chars t'.tail)
  obtain ⟨hspec, htail⟩ := Specification.chars_append_inj hparts t.apart_tail t'.apart_tail
  exact RollText.ext hblanks hspec htail

end ChatDice.Command
