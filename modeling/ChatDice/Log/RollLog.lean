import ChatDice.Digest.Sha256
import ChatDice.Text.Basic
import ChatDice.Storage.Store

/-! # The roll log

    A log keeps the newest entries, up to its capacity.  Each new entry gets a
    reference that no entry of the log has, and is saved together with the rest
    before it counts; if it cannot be saved, the log is as before.

    `record` makes room for a new entry, adds it, and takes both back if the log
    cannot be saved; `lookup?` finds the request that was logged under a reference.
-/

namespace ChatDice

/-! ## Logs -/

/-- How many entries a log keeps unless settings say otherwise. -/
def defaultCapacity : Nat := 500

/-- A log; entries are ordered from the oldest to the newest. -/
structure RollLog where
  entries      : List Entry
  capacity     : Nat
  /-- Number of the last candidate that was tried as a reference. -/
  sequence     : UInt64
  capacity_pos : 0 < capacity

namespace RollLog

/-- The log of the newest of some entries.  A capacity of zero counts as one. -/
def ofEntries (entries : List Entry) (capacity : Nat) : RollLog where
  entries      := entries.drop (entries.length - max capacity 1)
  capacity     := max capacity 1
  sequence     := 0
  capacity_pos := by omega

/-- The log of the entries in a store. -/
def load {S : Type} [Store S] (s : S) (capacity : Nat) : RollLog × List Notice :=
  let (entries, notices) := Store.load s
  let log := ofEntries entries capacity
  (log, notices ++ [.logOpened log.entries.length log.capacity])

/-! ## Finding entries -/

/-- The entry with a reference; of several the oldest. -/
def get? (log : RollLog) (r : Reference) : Option Entry :=
  log.entries.find? (·.reference == r)

/-- The request that was logged under a reference. -/
def lookup? (log : RollLog) (r : Reference) : Option Request :=
  (log.get? r).map (·.roll.request)

/-! ## New references -/

/-- How many bytes of a digest make a reference. -/
def referenceBytes : Nat := 16

/-- The reference to try for a number: the start of a digest of the time stamp and
the number. -/
def candidate (stamp : List Char) (n : UInt64) : Reference :=
  let message := stamp ++ '#' :: Decimal.digits n.toNat
  ⟨String.ofList (Hex.ofBytes
    ((Sha256.digest (message.flatMap String.utf8EncodeChar)).take referenceBytes))⟩

/-- Tries the numbers after `n` in turn, `fuel` of them, and gives the first
candidate that no entry has, with its number. -/
def search (log : RollLog) (stamp : List Char) : (fuel : Nat) → (n : UInt64) →
    Option (Reference × UInt64)
  | 0,        _ => none
  | fuel + 1, n =>
    let r := candidate stamp (n + 1)
    if (log.get? r).isNone then some (r, n + 1) else search log stamp fuel (n + 1)

/-- A reference that no entry has.  Numbers repeat after all 64-bit words, so the
search ends there. -/
def nextReference (log : RollLog) (now : Instant) : Option (Reference × UInt64) :=
  log.search now.referenceStamp UInt64.size log.sequence

/-! ## Recording -/

/-- Takes the oldest entry out of a full log; gives that entry, if there is one, and
the log without it. -/
def evict (log : RollLog) : Option Entry × RollLog :=
  if log.capacity ≤ log.entries.length then
    (log.entries.head?, { log with entries := log.entries.tail })
  else (none, log)

/-- Adds an entry as the newest one. -/
def push (log : RollLog) (e : Entry) : RollLog := { log with entries := log.entries ++ [e] }

/-- Takes the newest entry away. -/
def pop (log : RollLog) : RollLog := { log with entries := log.entries.dropLast }

/-- Puts an entry that was evicted back as the oldest one. -/
def restore (log : RollLog) (evicted : Option Entry) : RollLog :=
  { log with entries := evicted.toList ++ log.entries }

/-- Why a roll could not be recorded. -/
inductive RecordError
  | notSaved (e : SaveError)
  /-- Every candidate is the reference of some entry. -/
  | noReference
  deriving DecidableEq

/-- What recording gives: the new reference or an error, and log and store
after it. -/
structure Recording (S : Type) where
  answer  : Except RecordError Reference
  log     : RollLog
  store   : S
  notices : List Notice

/-- Records a roll made now, and saves the log.  If that fails, what was done to the
entries is undone. -/
def record {S : Type} [Store S] (log : RollLog) (s : S) (now : Instant) (roll : Roll) :
    Recording S :=
  match log.nextReference now with
  | none                       => ⟨.error .noReference, log, s, []⟩
  | some (reference, sequence) =>
    -- The number of the candidate is used up, whatever becomes of the entry.
    let (evicted, log) := evict { log with sequence := sequence }
    let log := log.push ⟨reference, now, roll⟩
    match Store.save s log.entries with
    | .ok s    => ⟨.ok reference, log, s, [.recorded reference roll.request]⟩
    | .error e => ⟨.error (.notSaved e), log.pop.restore evicted, s, []⟩

/-- Saves the log again. -/
def flush {S : Type} [Store S] (log : RollLog) (s : S) : Except SaveError S :=
  Store.save s log.entries

end RollLog

end ChatDice
