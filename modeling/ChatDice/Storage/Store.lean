import ChatDice.Notice

/-! # Stores

    A store keeps the entries of a log.  Loading never fails; saving replaces
    everything that was saved before, or leaves the store as it is.
-/

namespace ChatDice

/-! ## What a store does -/

/-- Why entries could not be saved, and where. -/
structure SaveError where
  path   : String
  reason : String
  deriving DecidableEq

/-- The text of a save error. -/
def SaveError.message (e : SaveError) : String :=
  "unable to write roll log to " ++ e.path ++ ": " ++ e.reason

/-- A type of stores. -/
class Store (S : Type) where
  /-- The saved entries, oldest first, with what there is to say about them. -/
  load : S → List Entry × List Notice
  /-- The store after the entries were saved. -/
  save : S → List Entry → Except SaveError S

/-! ## Shelves -/

/-- A store without files.  While it refuses, nothing can be saved. -/
structure Shelf where
  entries : List Entry
  /-- How often entries were saved. -/
  saves   : Nat
  refuses : Bool

namespace Shelf

/-- A shelf that starts with some entries. -/
def ofEntries (entries : List Entry) (refuses : Bool) : Shelf := ⟨entries, 0, refuses⟩

/-- The error of a shelf that refuses. -/
def refusal : SaveError := ⟨"/dev/full", "disk full"⟩

/-- The shelf after entries were saved. -/
def save (s : Shelf) (entries : List Entry) : Except SaveError Shelf :=
  if s.refuses then .error refusal
  else .ok { s with entries := entries, saves := s.saves + 1 }

instance : Store Shelf where
  load s := (s.entries, [])
  save   := save

end Shelf

end ChatDice
