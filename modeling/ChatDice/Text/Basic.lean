/-! # White space and numbers in texts

    What all texts of the bot have in common, be they commands, replies, references, log
    files or time stamps.

    - `Text.isBlank`: the characters with the Unicode property `White_Space`, and trimming
      by them.
    - `Decimal.digits`, `Decimal.value`: decimal numbers written and read.
    - `Hex.ofBytes`, `Hex.value?`: hexadecimal numbers written and read.
-/

/-! ## White space

    Commands, watermarks and time stamps all use this one class.  The zero-width space,
    the byte order mark and the information separators are not in it. -/

namespace ChatDice.Text

/-- The property `White_Space` by code point. -/
def isBlankCode (n : Nat) : Bool :=
  (0x09 ≤ n && n ≤ 0x0D) || n == 0x20 || n == 0x85 || n == 0xA0 || n == 0x1680 ||
    (0x2000 ≤ n && n ≤ 0x200A) || n == 0x2028 || n == 0x2029 || n == 0x202F ||
    n == 0x205F || n == 0x3000

/-- Whether a character is white space. -/
def isBlank (c : Char) : Bool := isBlankCode c.toNat

/-- The text without its leading white space. -/
def trimStart (s : List Char) : List Char := s.dropWhile isBlank

/-- The text without its trailing white space. -/
def trimEnd (s : List Char) : List Char := (s.reverse.dropWhile isBlank).reverse

/-- The text without white space at either end. -/
def trim (s : List Char) : List Char := trimEnd (trimStart s)

end ChatDice.Text

/-! ## Decimal numbers

    Numbers are written with plain digits, with digits padded with zeros, with a sign when
    negative, or, as modifiers are, with a sign always. -/

namespace ChatDice.Decimal

/-- The decimal digits of a number, with no leading zero. -/
def digits (n : Nat) : List Char := Nat.toDigits 10 n

/-- Digits filled up with zeros on the left to at least `width` places. -/
def padded (width n : Nat) : List Char :=
  List.replicate (width - (digits n).length) '0' ++ digits n

/-- An integer, signed only when negative. -/
def integer : Int → List Char
  | .ofNat n   => digits n
  | .negSucc n => '-' :: digits (n + 1)

/-- An integer that always shows its sign; zero counts as positive. -/
def signed (i : Int) : List Char :=
  (if i < 0 then '-' else '+') :: digits i.natAbs

/-- The digits of a number as a string. -/
def text (n : Nat) : String := String.ofList (digits n)

/-- The value of one decimal digit. -/
def digitValue (c : Char) : Nat := c.toNat - 48

/-- The number that a run of decimal digits denotes; no digits denote zero. -/
def value (ds : List Char) : Nat := ds.foldl (fun n c => 10 * n + digitValue c) 0

end ChatDice.Decimal

/-! ## Hexadecimal digits

    Digits are read in either case and written in lower case. -/

namespace ChatDice.Hex

/-- The value of a hexadecimal digit. -/
def digitValue? (c : Char) : Option Nat :=
  if c.isDigit then some (c.toNat - 48)
  else if 'a' ≤ c ∧ c ≤ 'f' then some (c.toNat - 87)
  else if 'A' ≤ c ∧ c ≤ 'F' then some (c.toNat - 55)
  else none

/-- The number that some digits denote. -/
def value? (ds : List Char) : Option Nat :=
  ds.foldlM (fun n c => (digitValue? c).map (16 * n + ·)) 0

/-- The last hexadecimal digit of a number. -/
def lastDigit (n : Nat) : Char := Nat.digitChar (n % 16)

/-- A byte as two digits. -/
def ofByte (b : UInt8) : List Char := [lastDigit (b.toNat / 16), lastDigit b.toNat]

/-- Bytes as digits. -/
def ofBytes (bytes : List UInt8) : List Char := bytes.flatMap ofByte

end ChatDice.Hex
