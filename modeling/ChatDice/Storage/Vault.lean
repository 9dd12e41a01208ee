import ChatDice.Log.Codec
import ChatDice.Storage.Disk
import ChatDice.Storage.Store

/-! # Vaults

    A vault is all that outlives a bot: a disk, and where the log is kept, which
    is a file on the disk or a shelf.  A log file holds a JSON array of entries;
    items that are no entries are passed over one by one.
-/

namespace ChatDice

/-! ## Log files -/

/-- What there is to say about the items of a log file that are no entries. -/
def skipNotices (path : String) (items : List (Option Entry)) : List Notice :=
  (items.zipIdx.filter (·.1.isNone)).map fun item => .entrySkipped path item.2

/-- The entries in a log file.  A file that is missing, cannot be read or holds no
array has none. -/
def Disk.loadLog (d : Disk) (path : String) : List Entry × List Notice :=
  match d.read path with
  | .error .notFound => ([], [.logMissing path])
  | .error _         => ([], [.logUnreadable path])
  | .ok s            =>
    match readLog s.toList with
    | none       => ([], [.logNoArray path])
    | some items => (items.filterMap id, skipNotices path items)

/-- The disk after entries were saved to a log file. -/
def Disk.saveLog (d : Disk) (path : String) (entries : List Entry) : Except SaveError Disk :=
  match d.write path (String.ofList (writtenLog entries)) with
  | .ok d    => .ok d
  | .error e => .error ⟨path, e.message⟩

/-! ## Vaults -/

/-- Where a log is kept. -/
inductive Archive
  | shelf (s : Shelf)
  | file (path : String)

/-- All that outlives a bot. -/
structure Vault where
  disk    : Disk
  archive : Archive

namespace Vault

/-- The saved entries. -/
def load (v : Vault) : List Entry × List Notice :=
  match v.archive with
  | .shelf s   => Store.load s
  | .file path => v.disk.loadLog path

/-- The vault after entries were saved. -/
def save (v : Vault) (entries : List Entry) : Except SaveError Vault :=
  match v.archive with
  | .shelf s   =>
    match s.save entries with
    | .ok s    => .ok { v with archive := .shelf s }
    | .error e => .error e
  | .file path =>
    match v.disk.saveLog path entries with
    | .ok d    => .ok { v with disk := d }
    | .error e => .error e

instance : Store Vault := ⟨load, save⟩

end Vault

end ChatDice
