import Std.Time.DateTime.Timestamp
import ChatDice.Console.Run

/-! # The program

    Reads lines from standard input and writes replies to standard output.  The
    files that the bot uses are looked up when it starts, and written when a line
    changes them.
-/

namespace ChatDice

/-! ## Files -/

/-- The path of a place. -/
def Place.path : Place → String
  | "/" :: names => "/" ++ "/".intercalate names
  | names        => "/".intercalate names

/-- What the file system has at a path.  A file that cannot be read is taken as one
without a text. -/
def lookUp (path : String) : IO (Option Node) := do
  let file := (← IO.currentDir) / path
  if ← file.isDir then return some .folder
  unless ← file.pathExists do return none
  try
    return some (Node.ofBytes (← IO.FS.readBinFile file))
  catch _ => return some .binary

/-- The places that some names lead through, one after the other. -/
def placesThrough (p : Place) : List String → List Place
  | []      => []
  | n :: ns => Disk.enter p n :: placesThrough (Disk.enter p n) ns

/-- A disk that also has what the file system has on the way to some paths. -/
def lookUpAll (d : Disk) (paths : List String) : IO Disk := do
  let mut d := d
  for path in paths do
    for p in placesThrough (Disk.startOf path) (Disk.namesOf path) do
      match ← lookUp (Place.path p) with
      | some n => d := d.put p n
      | none   => pure ()
  return d

/-- Writes the texts that changed between two disks. -/
def writeChanges (old new : Disk) (paths : List String) : IO Unit := do
  for path in paths do
    match new.text? path with
    | some s => if old.text? path != some s then IO.FS.writeFile path s
    | none   => pure ()

/-- The paths of the files that a bot writes. -/
def Settings.paths (s : Settings) : List String := s.rollLog :: s.watermark.toList

/-! ## Clock and randomness -/

/-- The time now. -/
def readClock : IO Instant := do
  let nanos := (← Std.Time.Timestamp.now).toNanosecondsSinceUnixEpoch.toInt
  return ⟨nanos / Instant.nanosPerSecond, (nanos % Instant.nanosPerSecond).toNat⟩

/-- A seed that differs from run to run. -/
def readSeed : IO UInt64 := do
  let bytes ← IO.getRandomBytes 8
  return bytes.toList.foldl (fun seed b => (seed <<< 8) ||| b.toUInt64) 0

/-! ## Lines -/

/-- Reads bytes up to and including a line feed, or up to the end of input. -/
partial def readLine (input : IO.FS.Stream) (line : ByteArray) : IO ByteArray := do
  let bytes ← input.read 1
  if bytes.isEmpty then return line
  let line := line ++ bytes
  if bytes.toList == [0x0A] then return line
  readLine input line

/-- Writes the reports on a line. -/
def writeReports (reports : List Console.Report) : IO Unit := do
  for r in reports do
    IO.eprintln ("Error: invalid roll command: " ++ String.ofList r.text)
    IO.eprintln ("  bytes " ++ Decimal.text r.miss.start ++ " to " ++ Decimal.text r.miss.stop ++
      ": " ++ r.miss.reason)

/-- Handles lines until the input ends. -/
partial def serve (settings : Settings) (user : String) (p : Console.Progress Wyrand) :
    IO Console.Exit := do
  let bytes ← readLine (← IO.getStdin) ByteArray.empty
  if bytes.isEmpty then
    let f := Console.finish p.bot
    writeChanges Disk.empty f.bot.table.store.disk [settings.rollLog]
    return f.exit
  match Console.lineText bytes.toList with
  | none      => return .failure
  | some text =>
    let arrival ← readClock
    let recorded ← readClock
    let h := Console.handleLine user p text arrival recorded
    writeChanges p.bot.table.store.disk h.progress.bot.table.store.disk settings.paths
    writeReports h.reports
    match h.reply with
    | .error cause       => return .halted cause
    | .ok none           => serve settings user h.progress
    | .ok (some reply)   =>
      IO.println reply
      (← IO.getStdout).flush
      serve settings user h.progress

/-- Loads settings and handles the input. -/
def runConsole (config user : String) : IO Console.Exit := do
  match Settings.load (← lookUpAll Disk.empty [config]) config with
  | .error e     =>
    IO.eprintln e.message
    return .failure
  | .ok settings =>
    let d ← lookUpAll Disk.empty settings.paths
    let source : Wyrand := ⟨← readSeed⟩
    let bot := (Bot.ofSettings settings source d).1
    serve settings user ⟨bot, ← readClock⟩

end ChatDice

open ChatDice in
/-- Runs the program. -/
def main (args : List String) : IO UInt32 := do
  match Console.Invocation.ofArguments (← IO.getEnv "ROLLBOT_CONFIG") args with
  | .version         => IO.println programName; return 0
  | .help            => IO.print Console.helpText; return 0
  | .mistaken        => IO.eprintln "error: unusable arguments, see --help"; return 2
  | .run config user => return (← runConsole config user).code.toUInt32
