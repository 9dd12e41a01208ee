import ChatDice.Dice.Request

/-! # Outcomes

    What a roll produced: one result per die in rolling order, the modifier,
    and the total of the dice that count plus the modifier.
    `Outcome.describe` is the text shown in replies.
-/

namespace ChatDice

/-! ## Results of single dice -/

/-- What became of one die of a roll. -/
inductive DieResult
  /-- The die counts with this face. -/
  | counted (face : UInt16)
  /-- The die was dropped by a drop roll. -/
  | dropped
  /-- The die was left out by a keep roll. -/
  | keptOut
  deriving DecidableEq

namespace DieResult

/-- The face of a die that counts. -/
def face? : DieResult → Option UInt16
  | counted v => some v
  | _         => none

/-- Whether the die counts toward the total. -/
def counts (d : DieResult) : Bool := d.face?.isSome

/-- The face, or a letter in parentheses for a die that does not count. -/
def written : DieResult → List Char
  | counted v => Decimal.digits v.toNat
  | dropped   => ['(', 'd', ')']
  | keptOut   => ['(', 'k', ')']

/-- The result's display form as a string. -/
def text (d : DieResult) : String := String.ofList d.written

end DieResult

/-! ## Totals -/

/-- Sum of two 64-bit integers, held at the nearest end of the range when it
leaves it. -/
def saturatingAdd (a b : Int64) : Int64 :=
  let exact := a.toInt + b.toInt
  if exact < Int64.minValue.toInt then Int64.minValue
  else if Int64.maxValue.toInt < exact then Int64.maxValue
  else Int64.ofInt exact

/-- Sum of faces in 64 bits. -/
def faceSum (faces : List UInt16) : Int64 :=
  faces.foldl (fun sum v => sum + Int64.ofNat v.toNat) 0

/-! ## Outcomes -/

/-- The outcome of a roll.  The total is stored, since a log may hold one that
does not follow from the dice. -/
structure Outcome where
  dice     : List DieResult
  total    : Int64
  modifier : Int16
  deriving DecidableEq

namespace Outcome

/-- The outcome of given dice: the total is the sum of the faces that count,
plus the modifier. -/
def ofDice (dice : List DieResult) (modifier : Int16) : Outcome where
  dice     := dice
  total    := saturatingAdd (faceSum (dice.filterMap DieResult.face?)) modifier.toInt64
  modifier := modifier

/-- The outcome of dice that all count. -/
def ofFaces (faces : List UInt16) (modifier : Int16) : Outcome :=
  ofDice (faces.map .counted) modifier

/-- The faces that count, in order. -/
def kept (o : Outcome) : List UInt16 := o.dice.filterMap DieResult.face?

/-! ## Descriptions -/

/-- Texts joined by a comma and a space. -/
def commaSeparated (items : List (List Char)) : List Char :=
  [',', ' '].intercalate items

/-- The note that stands for the dice past the limit. -/
def moreNote (hidden : Nat) : List Char :=
  if hidden = 0 then []
  else ", ".toList ++ Decimal.digits hidden ++ " more...".toList

/-- The modifier after a space, or nothing when it is zero. -/
def modifierNote (modifier : Int16) : List Char :=
  if modifier = 0 then [] else ' ' :: Decimal.signed modifier.toInt

/-- The text of an outcome that lists at most `limit` dice, all of them when
there is no limit.  Dice past the limit are counted in a note; the note brings
its own comma, also when no die is listed before it. -/
def describeChars (o : Outcome) (limit : Option Nat) : List Char :=
  let listed := match limit with
    | some n => o.dice.take n
    | none   => o.dice
  '[' :: commaSeparated (listed.map DieResult.written) ++
    moreNote (o.dice.length - listed.length) ++ [']'] ++
    modifierNote o.modifier ++ " = ".toList ++ Decimal.integer o.total.toInt

/-- The description as a string. -/
def describe (o : Outcome) (limit : Option Nat) : String :=
  String.ofList (o.describeChars limit)

/-- The full description, with every die listed. -/
def text (o : Outcome) : String := o.describe none

end Outcome

end ChatDice
