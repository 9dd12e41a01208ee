import ChatDice.Text.Basic

/-! # JSON strings

    What stands between the quotes is a list of pieces: characters, and UTF-16
    code units given by number.  Pieces denote a text if their surrogates pair
    up.  `written` escapes what must be escaped and nothing else.
-/

namespace ChatDice.Json

/-! ## Pieces -/

/-- One piece of a string. -/
inductive Piece
  /-- A character, written as itself or by its short escape. -/
  | char (c : Char)
  /-- A code unit of 16 bits, written by number. -/
  | unit (n : Nat)
  deriving DecidableEq

/-- What stands between the quotes. -/
abbrev Quoted := List Piece

namespace Quoted

/-- A text as pieces. -/
def ofText (s : String) : Quoted := s.toList.map .char

/-- First half of a pair. -/
def isHigh (n : Nat) : Bool := 0xD800 ≤ n && n < 0xDC00

/-- Second half of a pair. -/
def isLow (n : Nat) : Bool := 0xDC00 ≤ n && n < 0xE000

/-- The characters that the pieces denote; a surrogate without its other half
denotes none. -/
def chars? : Quoted → Option (List Char)
  | [] => some []
  | .char c :: ps => (chars? ps).map (c :: ·)
  | .unit h :: .unit l :: ps =>
    if isHigh h then
      if isLow l then
        (chars? ps).map (Char.ofNat (0x10000 + (h - 0xD800) * 0x400 + (l - 0xDC00)) :: ·)
      else none
    else if isLow h then none
    else (chars? (.unit l :: ps)).map (Char.ofNat h :: ·)
  | .unit n :: ps =>
    if isHigh n || isLow n then none else (chars? ps).map (Char.ofNat n :: ·)

/-- The text that the pieces denote. -/
def text? (q : Quoted) : Option String := (chars? q).map String.ofList

/-! ## Writing -/

/-- A code unit by number. -/
def writtenUnit (n : Nat) : List Char :=
  ['\\', 'u', Hex.lastDigit (n / 4096), Hex.lastDigit (n / 256), Hex.lastDigit (n / 16),
    Hex.lastDigit n]

/-- A character: quotes, backslashes and control characters are escaped. -/
def writtenChar (c : Char) : List Char :=
  if c = '"' then ['\\', '"']
  else if c = '\\' then ['\\', '\\']
  else if c = '\x08' then ['\\', 'b']
  else if c = '\x0c' then ['\\', 'f']
  else if c = '\n' then ['\\', 'n']
  else if c = '\r' then ['\\', 'r']
  else if c = '\t' then ['\\', 't']
  else if c.toNat < 0x20 then writtenUnit c.toNat
  else [c]

/-- One piece. -/
def writtenPiece : Piece → List Char
  | .char c => writtenChar c
  | .unit n => writtenUnit n

/-- The string with its quotes. -/
def written (q : Quoted) : List Char := '"' :: q.flatMap writtenPiece ++ ['"']

/-! ## Reading -/

/-- The character of a short escape. -/
def shortEscape? : Char → Option Char
  | '"'  => some '"'
  | '\\' => some '\\'
  | '/'  => some '/'
  | 'b'  => some '\x08'
  | 'f'  => some '\x0c'
  | 'n'  => some '\n'
  | 'r'  => some '\r'
  | 't'  => some '\t'
  | _    => none

/-- Puts a piece in front of what was read. -/
def addPiece (p : Piece) : Option (Quoted × List Char) → Option (Quoted × List Char)
  | some (q, rest) => some (p :: q, rest)
  | none           => none

/-- The pieces up to the closing quote, and the text after it. -/
def read : List Char → Option (Quoted × List Char)
  | [] => none
  | '"' :: s => some ([], s)
  | '\\' :: 'u' :: a :: b :: c :: d :: s =>
    match Hex.value? [a, b, c, d] with
    | some n => addPiece (.unit n) (read s)
    | none   => none
  | '\\' :: e :: s =>
    match shortEscape? e with
    | some c => addPiece (.char c) (read s)
    | none   => none
  | c :: s => if c.toNat < 0x20 || c == '\\' then none else addPiece (.char c) (read s)

end Quoted

end ChatDice.Json
