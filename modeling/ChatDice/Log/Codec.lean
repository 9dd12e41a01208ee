import ChatDice.Calendar.Stamp
import ChatDice.Json.Generic
import ChatDice.Dice.Outcome

/-! # Log entries, and their form as JSON

    A log entry is one roll that was made: the reference handed out for it, when it was
    made, what was asked for, and what came out.  This is how entries and their parts are
    written to and read from JSON.

    - A record is an object with a member for each field, or an array with all
      fields in order.  Members with other names are passed over; a field given
      twice is refused.
    - A choice from a list of names is a string, or an object whose only member
      has that name and stands for nothing.
    - A result of a die is a number or a choice.  The outcome of a roll may also
      have an older shape: an array of results, with names of their own, and an
      array of total and modifier.
    - A roll is a request and its outcome in one object.

    Where more than one shape is possible, or fields of several records share an
    object, the value is first taken as generic and must be sound; `room` is the
    nesting that is left at that point.
-/

namespace ChatDice

/-! ## Entries -/

/-- The token that names a logged roll. -/
structure Reference where
  token : String
  deriving DecidableEq

/-- A roll with what came out of it. -/
structure Roll where
  request : Request
  outcome : Outcome
  deriving DecidableEq

/-- A logged roll. -/
structure Entry where
  reference : Reference
  time      : Instant
  roll      : Roll
  deriving DecidableEq

/-! ## Simple values -/

namespace Json

/-- A string that denotes a text. -/
def text? : Json → Option String
  | string q => q.text?
  | _        => none

/-- An integer between two bounds. -/
def intIn? (least most : Int) : Json → Option Int
  | number n => n.integerIn? least most
  | _        => none

/-- An integer of 16 bits without sign. -/
def uint16? (j : Json) : Option UInt16 := (j.intIn? 0 65535).map fun i => UInt16.ofNat i.toNat

/-- An integer of 16 bits with sign. -/
def int16? (j : Json) : Option Int16 := (j.intIn? (-32768) 32767).map Int16.ofInt

/-- An integer of 64 bits with sign. -/
def int64? (j : Json) : Option Int64 :=
  (j.intIn? Int64.minValue.toInt Int64.maxValue.toInt).map Int64.ofInt

/-- An integer of 16 bits, or nothing for null. -/
def optionalUInt16? : Json → Option (Option UInt16)
  | null => some none
  | j    => j.uint16?.map some

/-- The items of an array. -/
def items? : Json → Option (List Json)
  | array js => some js
  | _        => none

/-- The values that all items of a list stand for. -/
def allOf {α : Type} (f : Json → Option α) : List Json → Option (List α) :=
  List.mapM f

/-! ## Records and choices -/

/-- The members of an object by name; every name must denote a text. -/
def named? : List (Quoted × Json) → Option (List (String × Json)) :=
  List.mapM fun m => m.1.text?.map fun name => (name, m.2)

/-- The value of a field that is given at most once: nothing if it is missing. -/
def atMostOnce? (name : String) (members : List (String × Json)) : Option (Option Json) :=
  match members.filter (·.1 == name) with
  | []  => some none
  | [m] => some (some m.2)
  | _   => none

/-- The value of a field that is given exactly once. -/
def once? (name : String) (members : List (String × Json)) : Option Json :=
  (atMostOnce? name members).bind id

/-- The name that a value chooses.  What the member of an object form may hold is
given by `isNothing`. -/
def chosen? (isNothing : Json → Bool) : Json → Option String
  | string q        => q.text?
  | object [(k, j)] => if isNothing j then k.text? else none
  | _               => none

/-- Null alone stands for nothing. -/
def isNull : Json → Bool
  | null => true
  | _    => false

/-- Null or an empty object stands for nothing. -/
def isNullOrEmpty : Json → Bool
  | null      => true
  | object [] => true
  | _         => false

end Json

open Json

/-! ## Kinds and requests -/

/-- The kinds by name. -/
def RollKind.named : List (String × RollKind) :=
  [("normal", .normal), ("e", .exploding), ("i", .imploding), ("dh", .dropHigh),
    ("dl", .dropLow), ("kh", .keepHigh), ("kl", .keepLow)]

/-- The kind that a value chooses. -/
def RollKind.ofJson? (isNothing : Json → Bool) (j : Json) : Option RollKind :=
  (j.chosen? isNothing).bind fun name => RollKind.named.lookup name

/-- The kind as a value. -/
def RollKind.toJson (k : RollKind) : Json := .text k.name

namespace Request

/-- The members of a request. -/
def members (q : Request) : List (String × Json) :=
  [("type", q.kind.toJson), ("num_dice", .int q.count.toNat), ("sides", .int q.sides.toNat),
    ("modifier", .int q.modifier.toInt),
    ("threshold", match q.threshold with
      | some t => .int t.toNat
      | none   => .null)]

/-- The request as a value. -/
def toJson (q : Request) : Json := .record q.members

/-- The request of some members.  The threshold may be missing. -/
def ofMembers? (isNothing : Json → Bool) (ms : List (String × Json)) : Option Request := do
  let kind ← (← once? "type" ms) |> RollKind.ofJson? isNothing
  let count ← (← once? "num_dice" ms).uint16?
  let sides ← (← once? "sides" ms).uint16?
  let modifier ← (← once? "modifier" ms).int16?
  let threshold ← ((← atMostOnce? "threshold" ms).getD .null).optionalUInt16?
  pure { kind, count, sides, modifier, threshold }

/-- The request that a value stands for. -/
def ofJson? : Json → Option Request
  | object ms => (named? ms).bind (ofMembers? isNull)
  | array [kind, count, sides, modifier, threshold] => do
    let kind ← RollKind.ofJson? isNull kind
    let count ← count.uint16?
    let sides ← sides.uint16?
    let modifier ← modifier.int16?
    let threshold ← threshold.optionalUInt16?
    pure { kind, count, sides, modifier, threshold }
  | _ => none

end Request

/-! ## Results and outcomes -/

namespace DieResult

/-- The result as a value. -/
def toJson : DieResult → Json
  | counted v => .int v.toNat
  | dropped   => .text "dropped"
  | keptOut   => .text "kept-out"

/-- The names of dice that do not count. -/
def named : List (String × DieResult) := [("dropped", dropped), ("kept-out", keptOut)]

/-- The names in the older shape. -/
def olderNamed : List (String × DieResult) :=
  [("DH", dropped), ("DL", dropped), ("KH", keptOut), ("KL", keptOut)]

/-- The result that a value stands for, with given names for dice that do not
count. -/
def ofJsonNamed? (names : List (String × DieResult)) : Json → Option DieResult
  | number n => (Json.uint16? (number n)).map counted
  | j        => (j.chosen? isNull).bind fun name => names.lookup name

/-- The result that a value stands for. -/
def ofJson? (room : Nat) (j : Json) : Option DieResult :=
  if j.isSound room then ofJsonNamed? named j else none

end DieResult

namespace Outcome

/-- The outcome as a value. -/
def toJson (o : Outcome) : Json :=
  .record [("die_results", .array (o.dice.map DieResult.toJson)), ("total", .int o.total.toInt),
    ("modifier", .int o.modifier.toInt)]

/-- The results that an array of values stands for. -/
def diceOfJson? (room : Nat) (j : Json) : Option (List DieResult) :=
  j.items?.bind (allOf (DieResult.ofJson? room))

/-- The outcome of three values. -/
def ofParts? (room : Nat) (dice total modifier : Json) : Option Outcome := do
  let dice ← diceOfJson? room dice
  let total ← total.int64?
  let modifier ← modifier.int16?
  pure { dice, total, modifier }

/-- The outcome that a value stands for. -/
def ofJson? (room : Nat) : Json → Option Outcome
  | object ms => do
    let ms ← named? ms
    let dice ← once? "die_results" ms
    let total ← once? "total" ms
    let modifier ← once? "modifier" ms
    ofParts? (room - 2) dice total modifier
  | array [dice, total, modifier] => ofParts? (room - 2) dice total modifier
  | _ => none

/-- The outcome that a value of the older shape stands for. -/
def ofOlderJson? : Json → Option Outcome
  | array [dice, array [total, modifier]] => do
    let dice ← dice.items?.bind (allOf (DieResult.ofJsonNamed? DieResult.olderNamed))
    let total ← total.int64?
    let modifier ← modifier.int16?
    pure { dice, total, modifier }
  | _ => none

/-- The outcome that a value of either shape stands for. -/
def ofEitherJson? (room : Nat) (j : Json) : Option Outcome :=
  if j.isSound room then
    match ofJson? room j with
    | some o => some o
    | none   => ofOlderJson? j
  else none

end Outcome

/-! ## Rolls and entries -/

namespace Roll

/-- The roll as a value. -/
def toJson (r : Roll) : Json :=
  .record (r.request.members ++ [("results", r.outcome.toJson)])

/-- The roll that a value stands for.  All members must make sense, also those
that are passed over. -/
def ofJson? (room : Nat) : Json → Option Roll
  | object ms => do
    let named ← named? ms
    if Json.membersSound (room - 1) ms then
      let request ← Request.ofMembers? isNullOrEmpty named
      let outcome ← (← once? "results" named) |> Outcome.ofEitherJson? (room - 1)
      pure { request, outcome }
    else none
  | _ => none

end Roll

namespace Entry

/-- The entry as a value. -/
def toJson (e : Entry) : Json :=
  .record [("hash", .text e.reference.token),
    ("time", .text (String.ofList e.time.entryStamp)), ("roll_data", e.roll.toJson)]

/-- The entry of three values. -/
def ofParts? (room : Nat) (token time roll : Json) : Option Entry := do
  let token ← token.text?
  let time ← (← time.text?).toList |> Instant.readEntryStamp
  let roll ← Roll.ofJson? (room - 1) roll
  pure { reference := ⟨token⟩, time, roll }

/-- The entry that a value stands for. -/
def ofJson? (room : Nat) : Json → Option Entry
  | object ms => do
    let ms ← named? ms
    let token ← once? "hash" ms
    let time ← once? "time" ms
    let roll ← once? "roll_data" ms
    ofParts? room token time roll
  | array [token, time, roll] => ofParts? room token time roll
  | _ => none

end Entry

/-! ## Log files -/

/-- The text of a log file. -/
def writtenLog (entries : List Entry) : List Char :=
  (Json.array (entries.map Entry.toJson)).written

/-- What a log file holds: an entry or nothing for every item of its array.  A
text that is no array of generic values holds nothing at all. -/
def readLog (s : List Char) : Option (List (Option Entry)) :=
  match Json.readGeneric s with
  | some (.array js) => some (js.map (Entry.ofJson? Json.deepest))
  | _                => none

end ChatDice
