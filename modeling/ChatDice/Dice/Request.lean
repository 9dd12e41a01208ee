import ChatDice.Text.Basic

/-! # Roll requests

    A request says how many dice of how many sides to roll, which rule combines
    them, what to add to the total, and where exploding or imploding starts.
    `Request.written` is its command form, such as `3d6+2dh` or `4d6e5`.
    `DiceError` is why a roll cannot be made as requested.
-/

namespace ChatDice

/-! ## Kinds of roll -/

/-- The rule that combines the dice of a roll. -/
inductive RollKind
  /-- All dice count. -/
  | normal
  /-- Dice at or above the threshold add another die, and so do the added ones. -/
  | exploding
  /-- Dice at or below the threshold add another die; the added ones do not. -/
  | imploding
  /-- The highest die does not count. -/
  | dropHigh
  /-- The lowest die does not count. -/
  | dropLow
  /-- Only the highest die counts. -/
  | keepHigh
  /-- Only the lowest die counts. -/
  | keepLow
  deriving DecidableEq

namespace RollKind

/-- The suffix that selects the kind in a command; a normal roll has none. -/
def suffix : RollKind → List Char
  | normal    => []
  | exploding => ['e']
  | imploding => ['i']
  | dropHigh  => ['d', 'h']
  | dropLow   => ['d', 'l']
  | keepHigh  => ['k', 'h']
  | keepLow   => ['k', 'l']

/-- Only exploding and imploding rolls look at the threshold. -/
def usesThreshold : RollKind → Bool
  | exploding | imploding => true
  | _                     => false

/-- The kind's name: its suffix, or `normal`. -/
def name : RollKind → String
  | normal => "normal"
  | kind   => String.ofList kind.suffix

/-- The kind with a given name; upper and lower case ASCII letters are the same,
and no name at all means a normal roll. -/
def ofName? (s : String) : Option RollKind :=
  match s.toList.map Char.toLower with
  | []                             => some normal
  | ['n', 'o', 'r', 'm', 'a', 'l'] => some normal
  | ['e']                          => some exploding
  | ['i']                          => some imploding
  | ['d', 'h']                     => some dropHigh
  | ['d', 'l']                     => some dropLow
  | ['k', 'h']                     => some keepHigh
  | ['k', 'l']                     => some keepLow
  | _                              => none

end RollKind

/-! ## Requests -/

/-- Everything needed to make a roll, and to make it again later. -/
structure Request where
  kind      : RollKind
  count     : UInt16
  sides     : UInt16
  modifier  : Int16
  /-- Where exploding or imploding starts; `none` means the kind's default. -/
  threshold : Option UInt16
  deriving DecidableEq

namespace Request

/-- A normal roll of `count` dice with `sides` sides. -/
def plain (count sides : UInt16) : Request :=
  { kind := .normal, count, sides, modifier := 0, threshold := none }

/-- The request that leaves everything open: one twenty-sided die. -/
def standard : Request := plain 1 20

/-- The modifier with its sign, or nothing when it is zero. -/
def writtenModifier (modifier : Int16) : List Char :=
  if modifier = 0 then [] else Decimal.signed modifier.toInt

/-- The threshold, where the kind uses one and the request names one. -/
def writtenThreshold (kind : RollKind) : Option UInt16 → List Char
  | some t => if kind.usesThreshold then Decimal.digits t.toNat else []
  | none   => []

/-- The request in command form. -/
def written (q : Request) : List Char :=
  Decimal.digits q.count.toNat ++ 'd' :: Decimal.digits q.sides.toNat ++
    writtenModifier q.modifier ++ q.kind.suffix ++ writtenThreshold q.kind q.threshold

/-- The request in command form, as a string. -/
def text (q : Request) : String := String.ofList q.written

/-! ## Building a request step by step -/

/-- One change to a request under construction. -/
inductive Change
  | count (n : UInt16)
  | sides (n : UInt16)
  | modifier (m : Int16)
  | kind (k : RollKind)
  /-- Makes the roll exploding and sets or clears its threshold. -/
  | exploding (threshold : Option UInt16)
  /-- Makes the roll imploding and sets or clears its threshold. -/
  | imploding (threshold : Option UInt16)

/-- Applies one change.  Changing the kind alone keeps the threshold. -/
def change (q : Request) : Change → Request
  | .count n     => { q with count := n }
  | .sides n     => { q with sides := n }
  | .modifier m  => { q with modifier := m }
  | .kind k      => { q with kind := k }
  | .exploding t => { q with kind := .exploding, threshold := t }
  | .imploding t => { q with kind := .imploding, threshold := t }

/-- The standard request after some changes, applied in order. -/
def build (changes : List Change) : Request := changes.foldl change standard

end Request

/-! ## Dice errors -/

/-- A problem with a roll itself. -/
inductive DiceError
  /-- A die cannot have this number of sides. -/
  | invalidSides (sides : UInt16)
  /-- A drop or keep roll has no die to pick from. -/
  | emptyRoll (kind : RollKind)
  /-- Every die of the request would explode. -/
  | infiniteRolls (request : Request)
  /-- Explosions went on past the limit. -/
  | tooManyRolls (limit : Nat)
  /-- No kind of roll has this name. -/
  | unknownKind (name : String)
  deriving DecidableEq

/-- The text of a dice error. -/
def DiceError.message : DiceError → String
  | .invalidSides n  => "dice must have between 2 and 1000 sides, not " ++ Decimal.text n.toNat
  | .emptyRoll k     => "a " ++ k.name ++ " roll needs at least one die"
  | .infiniteRolls q => q.text ++ " would result in infinite rolls"
  | .tooManyRolls n  => "roll exceeded the limit of " ++ Decimal.text n ++ " additional dice"
  | .unknownKind s   => "unknown roll type: " ++ s

/-- The kind with a given name, or the error that names what was asked for. -/
def RollKind.ofName (s : String) : Except DiceError RollKind :=
  match RollKind.ofName? s with
  | some k => .ok k
  | none   => .error (.unknownKind s)

end ChatDice
