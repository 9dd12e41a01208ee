import ChatDice.Json.Value

/-! # Generic values

    A value that is kept without knowing what it stands for must make sense in
    itself: its strings denote texts, its numbers stay within double precision,
    and arrays and objects are not nested too deep.  `isSound` checks this.  Of
    members with one name only the last is kept: `lastWins`.

    A part of a text that nobody looks at need not be sound.
-/

namespace ChatDice.Json

/-- How deep arrays and objects may be nested. -/
def deepest : Nat := 127

mutual

/-- Whether a value makes sense, with `room` levels of nesting left. -/
def isSound (room : Nat) : Json → Bool
  | null           => true
  | bool _         => true
  | number n       => n.isFinite
  | string q       => q.text?.isSome
  | array items    => 0 < room && areSound (room - 1) items
  | object members => 0 < room && membersSound (room - 1) members

/-- Whether all items make sense. -/
def areSound (room : Nat) : List Json → Bool
  | []      => true
  | j :: js => isSound room j && areSound room js

/-- Whether all members make sense. -/
def membersSound (room : Nat) : List (Quoted × Json) → Bool
  | []           => true
  | (k, j) :: ms => k.text?.isSome && isSound room j && membersSound room ms

end

/-- Whether a member with this name is among the members. -/
def hasName (name : Option String) (members : List (Quoted × Json)) : Bool :=
  members.any fun m => m.1.text? == name

mutual

/-- The value with only the last of members with one name, at every level. -/
def lastWins : Json → Json
  | array items    => array (itemsLastWins items)
  | object members => object (membersLastWins members)
  | j              => j

/-- The items with only the last of members with one name. -/
def itemsLastWins : List Json → List Json
  | []      => []
  | j :: js => lastWins j :: itemsLastWins js

/-- The members without those that a later one replaces. -/
def membersLastWins : List (Quoted × Json) → List (Quoted × Json)
  | []           => []
  | (k, j) :: ms =>
    if hasName k.text? ms then membersLastWins ms else (k, lastWins j) :: membersLastWins ms

end

/-- The generic value of a text. -/
def readGeneric (s : List Char) : Option Json :=
  match read s with
  | some j => if j.isSound deepest then some j.lastWins else none
  | none   => none

end ChatDice.Json
