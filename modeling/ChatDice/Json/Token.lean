import ChatDice.Json.Numeral
import ChatDice.Json.Quoted

/-! # JSON tokens

    The tokens of a JSON text: words, numerals, strings and punctuation.  White
    space between tokens is a space, a tab or a line end.
-/

namespace ChatDice.Json

/-- One token. -/
inductive Token
  | null
  | bool (b : Bool)
  | number (n : Numeral)
  | string (q : Quoted)
  | openArray
  | closeArray
  | openObject
  | closeObject
  | comma
  | colon
  deriving DecidableEq

namespace Token

/-! ## Writing -/

/-- A token as written. -/
def written : Token → List Char
  | null        => ['n', 'u', 'l', 'l']
  | bool true   => ['t', 'r', 'u', 'e']
  | bool false  => ['f', 'a', 'l', 's', 'e']
  | number n    => n.written
  | string q    => q.written
  | openArray   => ['[']
  | closeArray  => [']']
  | openObject  => ['\x7b']
  | closeObject => ['\x7d']
  | comma       => [',']
  | colon       => [':']

/-! ## Numerals -/

/-- The digits at the start of a text, and the text after them. -/
def readDigits (s : List Char) : List Char × List Char :=
  (s.takeWhile Char.isDigit, s.dropWhile Char.isDigit)

/-- The fraction, if there is a point; a point needs digits. -/
def readFraction : List Char → Option (List Char × List Char)
  | '.' :: s =>
    let (ds, rest) := readDigits s
    if ds.isEmpty then none else some (ds, rest)
  | s        => some ([], s)

/-- The sign of an exponent; true for a minus. -/
def readExponentSign : List Char → Bool × List Char
  | '+' :: s => (false, s)
  | '-' :: s => (true, s)
  | s        => (false, s)

/-- The exponent, if there is a letter for it; the letter needs digits. -/
def readExponent (s : List Char) : Option (Option (Bool × List Char) × List Char) :=
  match s with
  | []     => some (none, s)
  | c :: r =>
    if c = 'e' ∨ c = 'E' then
      let (minus, r) := readExponentSign r
      let (ds, rest) := readDigits r
      if ds.isEmpty then none else some (some (minus, ds), rest)
    else some (none, s)

/-- A numeral after its sign.  A zero in front of other digits is refused. -/
def readUnsigned (negative : Bool) (s : List Char) : Option (Numeral × List Char) :=
  let (whole, s) := readDigits s
  if whole.isEmpty || (whole.head? == some '0' && whole != ['0']) then none
  else
    match readFraction s with
    | none               => none
    | some (fraction, s) =>
      match readExponent s with
      | none               => none
      | some (exponent, s) => some (⟨negative, whole, fraction, exponent⟩, s)

/-- A numeral. -/
def readNumeral : List Char → Option (Numeral × List Char)
  | '-' :: s => readUnsigned true s
  | s        => readUnsigned false s

/-! ## Single tokens -/

/-- White space of JSON. -/
def isBlank (c : Char) : Bool := c == ' ' || c == '\n' || c == '\t' || c == '\r'

/-- The token at the start of a text, and the text after it. -/
def read : List Char → Option (Token × List Char)
  | '['    :: s => some (openArray, s)
  | ']'    :: s => some (closeArray, s)
  | '\x7b' :: s => some (openObject, s)
  | '\x7d' :: s => some (closeObject, s)
  | ','    :: s => some (comma, s)
  | ':'    :: s => some (colon, s)
  | '"'    :: s => (Quoted.read s).map fun (q, s) => (string q, s)
  | 'n' :: 'u' :: 'l' :: 'l' :: s        => some (null, s)
  | 't' :: 'r' :: 'u' :: 'e' :: s        => some (bool true, s)
  | 'f' :: 'a' :: 'l' :: 's' :: 'e' :: s => some (bool false, s)
  | s => (readNumeral s).map fun (n, s) => (number n, s)

/-! ## Whole texts -/

/-- The tokens of a text after those in `done`, which is in reverse order, reading
at most `fuel` of them. -/
def readOnto : (fuel : Nat) → (done : List Token) → List Char → Option (List Token)
  | 0,        _,    _ => none
  | fuel + 1, done, s =>
    match s.dropWhile isBlank with
    | []     => some done.reverse
    | c :: r =>
      match read (c :: r) with
      | some (t, rest) => readOnto fuel (t :: done) rest
      | none           => none

/-- The tokens of a text.  Each token takes a character, so there are no more of
them than characters. -/
def readAll (s : List Char) : Option (List Token) := readOnto (s.length + 1) [] s

end Token

end ChatDice.Json
