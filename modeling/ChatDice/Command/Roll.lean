import ChatDice.Text.Basic
import ChatDice.Dice.Request
import ChatDice.Command.Grammar

/-! # The grammars of the commands

    - `rollSpec`: a roll specification such as `3d6`, `2d20+4kh` or `8d6e5`.
    - `rollCommand`: `/roll`, white space, a specification, and then nothing or
      white space and anything.
    - `rerollCommand`: `/reroll`, white space, and a reference made of ASCII
      letters and digits, with white space allowed after it.

    All letters are lower case; texts are brought to lower case before.
-/

namespace ChatDice.Command

open Grammar

/-! ## Roll specifications -/

/-- A number of one to three decimal digits. -/
def number : Grammar UInt16 := do
  let ds ← run1 Char.isDigit (some 3)
  pure (UInt16.ofNat (Decimal.value ds))

/-- A sign and a number. -/
def modifier : Grammar Int16 := do
  let sign ← oneOf ['+', '-']
  let n ← number
  pure (if sign = '-' then -Int16.ofNat n.toNat else Int16.ofNat n.toNat)

/-- The suffix of a kind without a threshold. -/
def plainSuffix (kind : RollKind) : Grammar (RollKind × Option UInt16) := do
  word kind.suffix
  pure (kind, none)

/-- The suffix of a kind with a threshold, which may be left out. -/
def thresholdSuffix (kind : RollKind) : Grammar (RollKind × Option UInt16) := do
  word kind.suffix
  let threshold ← optional number
  pure (kind, threshold)

/-- A kind's suffix and threshold. -/
def suffix : Grammar (RollKind × Option UInt16) :=
  choice [plainSuffix .dropHigh, plainSuffix .dropLow, plainSuffix .keepHigh,
    plainSuffix .keepLow, thresholdSuffix .exploding, thresholdSuffix .imploding]

/-- Dice count, sides, and optionally a modifier and a suffix. -/
def rollSpec : Grammar Request := do
  let count ← number
  char 'd'
  let sides ← number
  let m ← optional modifier
  let kind ← optional suffix
  let (kind, threshold) := kind.getD (.normal, none)
  pure { kind, count, sides, modifier := m.getD 0, threshold }

/-! ## Commands -/

/-- The word that starts a roll command. -/
def rollKeyword : List Char := ['/', 'r', 'o', 'l', 'l']

/-- The word that starts a reroll command. -/
def rerollKeyword : List Char := ['/', 'r', 'e', 'r', 'o', 'l', 'l']

/-- White space, at least one character. -/
def blanks : Grammar (List Char) := run1 Text.isBlank none

/-- White space and anything after it. -/
def blanksAndMore : Grammar Unit := do
  let _ ← blanks
  let _ ← run (fun _ => true) none

/-- A roll command. -/
def rollCommand : Grammar Request := do
  word rollKeyword
  let _ ← blanks
  let q ← rollSpec
  orElse endOfInput blanksAndMore
  pure q

/-- A reroll command; its value is the reference. -/
def rerollCommand : Grammar (List Char) := do
  word rerollKeyword
  let _ ← blanks
  let token ← run1 Char.isAlphanum none
  let _ ← optional blanks
  endOfInput
  pure token

end ChatDice.Command
