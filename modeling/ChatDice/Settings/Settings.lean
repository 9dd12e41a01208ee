import ChatDice.Dice.Pool
import ChatDice.Log.RollLog
import ChatDice.Settings.Document
import ChatDice.Storage.Disk

/-! # Settings

    What can be set for a bot, and how settings follow from a settings file: each
    setting that the file does not name has its default.
-/

namespace ChatDice

/-- How many dice a reply lists unless settings say otherwise. -/
def defaultListLimit : Nat := 50

/-- The settings of a bot. -/
structure Settings where
  /-- Path of the log file. -/
  rollLog     : String
  /-- How many entries the log keeps. -/
  logCapacity : Nat
  /-- How many dice explosions may add to a roll. -/
  rollLimit   : Nat
  /-- Path of the watermark file, if there is one. -/
  watermark   : Option String
  /-- How many dice a reply lists. -/
  listLimit   : Nat
  deriving DecidableEq

namespace Settings

/-- The settings of an empty file. -/
def standard : Settings where
  rollLog     := "dice_rolls.json"
  logCapacity := defaultCapacity
  rollLimit   := defaultRollLimit
  watermark   := none
  listLimit   := defaultListLimit

/-! ## Reading -/

/-- Applies one assignment.  A name that is no setting, a value of the wrong type
and a negative number are refused. -/
def assign (s : Settings) : String × Scalar → Option Settings
  | (name, .text v) =>
    if name = "roll_log" then some { s with rollLog := v }
    else if name = "watermark" then some { s with watermark := some v }
    else none
  | (name, .number i) =>
    if i < 0 then none
    else if name = "log_capacity" then some { s with logCapacity := i.toNat }
    else if name = "roll_limit" then some { s with rollLimit := i.toNat }
    else if name = "list_limit" then some { s with listLimit := i.toNat }
    else none

/-- Whether every name is assigned once. -/
def assignsOnce : Document → Bool
  | []          => true
  | (n, _) :: d => d.all (·.1 != n) && assignsOnce d

/-- The settings of a document. -/
def ofDocument (d : Document) : Option Settings :=
  if assignsOnce d then d.foldlM assign standard else none

/-- The settings of a text. -/
def read (s : String) : Option Settings := (readDocument s.toList).bind ofDocument

/-! ## Loading -/

/-- Why settings cannot be loaded from a path. -/
inductive LoadError
  | unreadable (path : String) (error : FileError)
  | malformed (path : String)
  deriving DecidableEq

/-- The text of a load error. -/
def LoadError.message : LoadError → String
  | unreadable path e => "unable to read config file " ++ path ++ ": " ++ e.message
  | malformed path    => "invalid config file " ++ path

/-- The settings in a file.  A file that does not exist sets nothing. -/
def load (d : Disk) (path : String) : Except LoadError Settings :=
  match d.read path with
  | .error .notFound => .ok standard
  | .error e         => .error (.unreadable path e)
  | .ok s            =>
    match read s with
    | some settings => .ok settings
    | none          => .error (.malformed path)

end Settings

end ChatDice
