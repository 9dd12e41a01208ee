import ChatDice.Text.Letter.Lowercase
import ChatDice.Command.Roll

/-! # Reading commands

    A message is routed by its first word alone (`isRoll`, `isReroll`); only then
    is it read as a whole (`roll?`, `reroll?`), in lower case.  The first word is
    compared without regard to ASCII case and must be followed by white space or
    nothing.
-/

namespace ChatDice.Command

/-! ## Routing -/

/-- Whether a text starts with a keyword, in any ASCII case, that is followed by
white space or nothing. -/
def startsWith (keyword text : List Char) : Bool :=
  (text.take keyword.length).map Char.toLower == keyword &&
    ((text.drop keyword.length).head?.all Text.isBlank)

/-- Whether a text is meant as a roll command. -/
def isRoll (text : List Char) : Bool := startsWith rollKeyword text

/-- Whether a text is meant as a reroll command. -/
def isReroll (text : List Char) : Bool := startsWith rerollKeyword text

/-! ## Reading -/

/-- The request of a roll command. -/
def roll? (text : List Char) : Option Request :=
  (rollCommand.read (Text.lowercase text)).toOption

/-- The reference of a reroll command. -/
def reroll? (text : List Char) : Option (List Char) :=
  (rerollCommand.read (Text.lowercase text)).toOption

/-- The errors of a roll command that cannot be read. -/
def rollErrors (text : List Char) : List Miss :=
  match rollCommand.read (Text.lowercase text) with
  | .ok _    => []
  | .error e => e

end ChatDice.Command

namespace ChatDice

open Command

/-- Reads a bare roll specification, in any case. -/
def Request.read (text : List Char) : Except (List Miss) Request :=
  rollSpec.read (Text.lowercase text)

/-- The text that tells why a specification was refused. -/
def Command.refusal (errors : List Miss) : String :=
  "; ".intercalate (errors.map Miss.reason)

end ChatDice
