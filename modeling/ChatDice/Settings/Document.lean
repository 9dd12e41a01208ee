import ChatDice.Text.Basic

/-! # Settings documents

    A settings file is a TOML document.  Every setting is a string or an integer
    and stands at the top level, so a document that holds anything else (tables,
    dotted names, arrays, dates, fractions, words) holds a setting that does not
    exist or has the wrong type, and is refused as a whole.  What is read here
    are therefore the flat documents: one assignment `name = value` to a line,
    comments, and empty lines, in exactly the syntax of TOML 1.0.
-/

namespace ChatDice.Settings

/-! ## Documents -/

/-- The value of an assignment. -/
inductive Scalar
  | text (s : String)
  | number (i : Int)
  deriving DecidableEq

/-- The assignments of a document, in order. -/
abbrev Document := List (String × Scalar)

/-! ## Characters -/

/-- A space or a tab. -/
def isGap (c : Char) : Bool := c == ' ' || c == '\t'

/-- What may stand in a comment or, apart from quotes and backslashes, in a
string of one line: tabs and everything that is no control character. -/
def isPlain (c : Char) : Bool := c == '\t' || (0x20 ≤ c.toNat && c != '\x7f')

/-- What a name without quotes is made of. -/
def isBare (c : Char) : Bool := c.isAlphanum || c == '_' || c == '-'

/-- The text with every line end of two characters made one of one.  A carriage
return on its own is left, and allowed nowhere. -/
def unifyLineEnds : List Char → List Char
  | '\r' :: '\n' :: s => '\n' :: unifyLineEnds s
  | c :: s            => c :: unifyLineEnds s
  | []                => []

/-! ## Escapes -/

/-- The character with a number in hexadecimal digits; surrogates are none. -/
def numbered? (ds : List Char) : Option Char :=
  match Hex.value? ds with
  | some n => if n.isValidChar then some (Char.ofNat n) else none
  | none   => none

/-- The character of a short escape. -/
def shortEscape? : Char → Option Char
  | 'b'  => some '\x08'
  | 't'  => some '\t'
  | 'n'  => some '\n'
  | 'f'  => some '\x0c'
  | 'r'  => some '\r'
  | '"'  => some '"'
  | '\\' => some '\\'
  | _    => none

/-! ## Strings -/

/-- What reading a part of a document gives: its value and the text after it. -/
abbrev Part (α : Type) := Option (α × List Char)

/-- Puts a character, if there is one, in front of what was read. -/
def addChar (c : Option Char) (part : Part (List Char)) : Part (List Char) :=
  match c, part with
  | some c, some (cs, rest) => some (c :: cs, rest)
  | _,      _               => none

/-- A string of one line with escapes, up to its closing quote. -/
def readBasic : List Char → Part (List Char)
  | [] => none
  | '"' :: s => some ([], s)
  | '\\' :: 'u' :: a :: b :: c :: d :: s =>
    match numbered? [a, b, c, d] with
    | some ch => addChar (some ch) (readBasic s)
    | none    => none
  | '\\' :: 'U' :: a :: b :: c :: d :: e :: f :: g :: h :: s =>
    match numbered? [a, b, c, d, e, f, g, h] with
    | some ch => addChar (some ch) (readBasic s)
    | none    => none
  | '\\' :: e :: s => addChar (shortEscape? e) (readBasic s)
  | c :: s => if isPlain c && c != '\\' then addChar (some c) (readBasic s) else none

/-- A string of one line without escapes, up to its closing quote. -/
def readLiteral (s : List Char) : Part (List Char) :=
  match s.span (fun c => isPlain c && c != '\'') with
  | (cs, '\'' :: rest) => some (cs, rest)
  | _                  => none

/-- Whether a backslash is followed by nothing but spaces up to a line end. -/
def continuesLine (s : List Char) : Bool := (s.dropWhile isGap).head? == some '\n'

/-- A string of several lines with escapes, up to its three closing quotes, before
which up to two more quotes belong to the string.  A backslash at the end of a
line takes the white space after it away; `skipping` is true while it does. -/
def readLongBasic (skipping : Bool) : List Char → Part (List Char)
  | [] => none
  | '"' :: '"' :: '"' :: '"' :: '"' :: s => some (['"', '"'], s)
  | '"' :: '"' :: '"' :: '"' :: s => some (['"'], s)
  | '"' :: '"' :: '"' :: s => some ([], s)
  | '\\' :: 'u' :: a :: b :: c :: d :: s =>
    match numbered? [a, b, c, d] with
    | some ch => addChar (some ch) (readLongBasic false s)
    | none    => none
  | '\\' :: 'U' :: a :: b :: c :: d :: e :: f :: g :: h :: s =>
    match numbered? [a, b, c, d, e, f, g, h] with
    | some ch => addChar (some ch) (readLongBasic false s)
    | none    => none
  | '\\' :: e :: s =>
    -- The character after the backslash is white space here, and goes with the rest.
    if continuesLine (e :: s) then readLongBasic true s
    else addChar (shortEscape? e) (readLongBasic false s)
  | c :: s =>
    if skipping && (isGap c || c == '\n') then readLongBasic true s
    else if (isPlain c && c != '\\') || c == '\n' then addChar (some c) (readLongBasic false s)
    else none

/-- A string of several lines without escapes, up to its three closing quotes,
before which up to two more quotes belong to the string. -/
def readLongLiteral : List Char → Part (List Char)
  | [] => none
  | '\'' :: '\'' :: '\'' :: '\'' :: '\'' :: s => some (['\'', '\''], s)
  | '\'' :: '\'' :: '\'' :: '\'' :: s => some (['\''], s)
  | '\'' :: '\'' :: '\'' :: s => some ([], s)
  | c :: s => if isPlain c || c == '\n' then addChar (some c) (readLongLiteral s) else none

/-- A line end right after the three opening quotes does not belong to a
string. -/
def skipLineEnd : List Char → List Char
  | '\n' :: s => s
  | s         => s

/-- A string of any of the four forms. -/
def readString : List Char → Part (List Char)
  | '"' :: '"' :: '"' :: s    => readLongBasic false (skipLineEnd s)
  | '"' :: s                  => readBasic s
  | '\'' :: '\'' :: '\'' :: s => readLongLiteral (skipLineEnd s)
  | '\'' :: s                 => readLiteral s
  | _                         => none

/-! ## Integers -/

/-- Digits of a base, where one underscore may stand between two digits. -/
def readDigits (isDigit : Char → Bool) : List Char → List Char × List Char
  | '_' :: c :: s =>
    if isDigit c then
      let (ds, rest) := readDigits isDigit s
      (c :: ds, rest)
    else ([], '_' :: c :: s)
  | c :: s =>
    if isDigit c then
      let (ds, rest) := readDigits isDigit s
      (c :: ds, rest)
    else ([], c :: s)
  | [] => ([], [])

/-- A number in a base given by its prefix; it starts with a digit. -/
def readBased (base : Nat) (s : List Char) : Part Nat :=
  let isDigit := fun c => (Hex.digitValue? c).any (· < base)
  match s with
  | []     => none
  | c :: _ =>
    if isDigit c then
      let (ds, rest) := readDigits isDigit s
      some (ds.foldl (fun n c => base * n + (Hex.digitValue? c).getD 0) 0, rest)
    else none

/-- A decimal number; a zero stands alone. -/
def readDecimal : List Char → Part Nat
  | '0' :: s => some (0, s)
  | s        => readBased 10 s

/-- An integer: decimal with an optional sign, or hexadecimal, octal or binary. -/
def readInteger : List Char → Part Int
  | '0' :: 'x' :: s => (readBased 16 s).map fun (n, s) => ((n : Int), s)
  | '0' :: 'o' :: s => (readBased 8 s).map fun (n, s) => ((n : Int), s)
  | '0' :: 'b' :: s => (readBased 2 s).map fun (n, s) => ((n : Int), s)
  | '+' :: s        => (readDecimal s).map fun (n, s) => ((n : Int), s)
  | '-' :: s        => (readDecimal s).map fun (n, s) => (-(n : Int), s)
  | s               => (readDecimal s).map fun (n, s) => ((n : Int), s)

/-! ## Assignments -/

/-- A name, with or without quotes. -/
def readName : List Char → Part (List Char)
  | '"' :: s  => readBasic s
  | '\'' :: s => readLiteral s
  | s         =>
    let name := s.takeWhile isBare
    if name.isEmpty then none else some (name, s.drop name.length)

/-- The least integer of 64 bits. -/
def leastNumber : Int := Int64.minValue.toInt

/-- The greatest integer of 64 bits. -/
def mostNumber : Int := Int64.maxValue.toInt

/-- A value: a string, or an integer of 64 bits. -/
def readScalar (s : List Char) : Part Scalar :=
  match readString s with
  | some (cs, rest) => some (.text (String.ofList cs), rest)
  | none            =>
    match readInteger s with
    | some (i, rest) =>
      if leastNumber ≤ i ∧ i ≤ mostNumber then some (.number i, rest) else none
    | none           => none

/-- The text after a comment, if there is one. -/
def skipComment : List Char → List Char
  | '#' :: s => s.dropWhile isPlain
  | s        => s

/-- The text after the rest of a line, which is white space and a comment. -/
def readLineEnd (s : List Char) : Option (List Char) :=
  match skipComment (s.dropWhile isGap) with
  | '\n' :: s => some s
  | []        => some []
  | _         => none

/-- A name, an equals sign and a value. -/
def readAssignment (s : List Char) : Part (String × Scalar) :=
  match readName s with
  | none           => none
  | some (name, s) =>
    match s.dropWhile isGap with
    | '=' :: s => (readScalar (s.dropWhile isGap)).map fun (v, s) => ((String.ofList name, v), s)
    | _        => none

/-! ## Whole documents -/

/-- The assignments of a text after those in `done`, which is in reverse order,
reading at most `fuel` lines. -/
def readLines : (fuel : Nat) → (done : Document) → List Char → Option Document
  | 0,        _,    _ => none
  | fuel + 1, done, s =>
    match s.dropWhile isGap with
    | []        => some done.reverse
    | '\n' :: s => readLines fuel done s
    | '#' :: s  =>
      match readLineEnd ('#' :: s) with
      | some s => readLines fuel done s
      | none   => none
    | s         =>
      match readAssignment s with
      | none        => none
      | some (a, s) =>
        match readLineEnd s with
        | some s => readLines fuel (a :: done) s
        | none   => none

/-- The text without a byte order mark at its start. -/
def skipMark : List Char → List Char
  | '\ufeff' :: s => s
  | s             => s

/-- The assignments of a text.  Each line takes a character, apart from the last
one. -/
def readDocument (s : List Char) : Option Document :=
  readLines (s.length + 1) [] (unifyLineEnds (skipMark s))

end ChatDice.Settings
