import ChatDice.Text.Letter.Table

/-! # Lower-case form of a text

    Commands are read without regard to case, so they are first brought to lower
    case as a whole.  Each character has its own lower-case form, which for the
    capital I with a dot is two characters; only the capital sigma looks at its
    neighbours, because it has another form at the end of a word.
-/

namespace ChatDice.Text

/-! ## Single characters -/

/-- The lower-case code point of a code point above ASCII. -/
def lowercaseCode (n : Nat) : Nat :=
  match lowercaseRanges.find? (·.covers n) with
  | some r => (n + r.shift).toNat
  | none   => n

/-- The lower-case form of a character on its own. -/
def lowercaseChar (c : Char) : List Char :=
  if c.toNat < 128 then [c.toLower]
  else if c = 'İ' then ['i', '\u0307']
  else [Char.ofNat (lowercaseCode c.toNat)]

/-! ## The end of a word -/

/-- Whether the first character that is not case-ignorable is a cased one. -/
def leadsToCased (s : List Char) : Bool :=
  match s.dropWhile fun c => inRanges caseIgnorableRanges c.toNat with
  | c :: _ => inRanges casedRanges c.toNat
  | []     => false

/-- Whether a capital sigma ends its word: a cased character comes before it and
none after it, not counting case-ignorable ones.  `before` is the text before
it, the nearest character first. -/
def endsWord (before after : List Char) : Bool :=
  leadsToCased before && !leadsToCased after

/-! ## Whole texts -/

/-- Lower case of what follows `before`, which is in reverse order. -/
def lowercaseAfter (before : List Char) : List Char → List Char
  | []        => []
  | c :: rest =>
    (if c = 'Σ' then [if endsWord before rest then 'ς' else 'σ'] else lowercaseChar c) ++
      lowercaseAfter (c :: before) rest

/-- The lower-case form of a text. -/
def lowercase (s : List Char) : List Char := lowercaseAfter [] s

end ChatDice.Text
