import ChatDice.Notice
import ChatDice.Storage.Disk

/-! # Watermarks

    The watermark is the time of the newest message handled so far.  Only newer
    messages are handled, so nothing is answered twice.  It may be kept in a file
    to survive a restart; if the file cannot be written, the bot goes on without.
-/

namespace ChatDice

/-- The newest time handled, and the file it is kept in. -/
structure Watermark where
  path : Option String
  last : Option Instant
  deriving DecidableEq

namespace Watermark

/-- A watermark that is kept nowhere and has seen nothing. -/
def inMemory : Watermark := ⟨none, none⟩

/-- The watermark in a file.  A file without a time stamp is as good as none. -/
def load (d : Disk) (path : String) : Watermark × List Notice :=
  match d.read path with
  | .error _ => (⟨some path, none⟩, [.watermarkMissing path])
  | .ok s    =>
    match Instant.readZoned (Text.trim s.toList) with
    | some i => (⟨some path, some i⟩, [])
    | none   => (⟨some path, none⟩, [.watermarkIgnored path])

/-- The watermark that settings ask for. -/
def start (d : Disk) : Option String → Watermark × List Notice
  | some path => load d path
  | none      => (inMemory, [])

/-- Whether a time is newer than all that was handled. -/
def isFresh (w : Watermark) (t : Instant) : Bool :=
  match w.last with
  | some last => decide (last < t)
  | none      => true

/-- Keeps a new time in the file, if there is one. -/
def save (d : Disk) (t : Instant) : Option String → Disk × List Notice
  | none      => (d, [])
  | some path =>
    match d.write path (String.ofList t.watermarkStamp) with
    | .ok d    => (d, [])
    | .error _ => (d, [.watermarkNotSaved path])

/-- Moves the watermark forward to a time; it never moves back. -/
def advance (w : Watermark) (d : Disk) (t : Instant) : Watermark × Disk × List Notice :=
  if w.isFresh t then ({ w with last := some t }, save d t w.path) else (w, d, [])

end Watermark

end ChatDice
