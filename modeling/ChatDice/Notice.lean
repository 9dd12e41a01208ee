import ChatDice.Calendar.Stamp
import ChatDice.Log.Codec

/-! # Notices

    What the bot tells whoever runs it, apart from its replies: each notice has a
    level, a message, and named fields of text.
-/

namespace ChatDice

/-- How much attention a notice asks for. -/
inductive Level
  | debug
  | info
  | warn
  deriving DecidableEq

/-- Something worth telling. -/
inductive Notice
  /-- A log was opened with so many entries. -/
  | logOpened (entries capacity : Nat)
  /-- There is no log file yet. -/
  | logMissing (path : String)
  /-- The log file cannot be read. -/
  | logUnreadable (path : String)
  /-- The log file holds no array. -/
  | logNoArray (path : String)
  /-- An item of the log file is no entry. -/
  | entrySkipped (path : String) (index : Nat)
  /-- A roll was put into the log. -/
  | recorded (reference : Reference) (request : Request)
  /-- A roll was made. -/
  | rolled (request : Request) (total : Int64) (reference : Reference)
  /-- A logged roll is about to be made again. -/
  | rerolling (reference : Reference) (request : Request)
  /-- A roll command arrived. -/
  | handlingRoll (user command : String)
  /-- A reroll command arrived. -/
  | handlingReroll (user command : String)
  /-- A roll command failed. -/
  | rollFailed (user : String) (request : Request) (error : String)
  /-- A reroll command failed. -/
  | rerollFailed (user : String) (reference : Reference) (error : String)
  /-- A message was not newer than what was handled before. -/
  | staleIgnored (sender : String) (timestamp : Instant)
  /-- There is no watermark to read. -/
  | watermarkMissing (path : String)
  /-- The watermark file holds no time stamp. -/
  | watermarkIgnored (path : String)
  /-- The watermark cannot be written. -/
  | watermarkNotSaved (path : String)
  deriving DecidableEq

namespace Notice

/-- The level of a notice. -/
def level : Notice → Level
  | logOpened ..         => .debug
  | logMissing ..        => .debug
  | logUnreadable ..     => .warn
  | logNoArray ..        => .warn
  | entrySkipped ..      => .warn
  | recorded ..          => .debug
  | rolled ..            => .debug
  | rerolling ..         => .debug
  | handlingRoll ..      => .info
  | handlingReroll ..    => .info
  | rollFailed ..        => .warn
  | rerollFailed ..      => .warn
  | staleIgnored ..      => .debug
  | watermarkMissing ..  => .debug
  | watermarkIgnored ..  => .warn
  | watermarkNotSaved .. => .warn

/-- The message of a notice. -/
def message : Notice → String
  | logOpened ..         => "opened roll log"
  | logMissing ..        => "no roll log file yet, starting empty"
  | logUnreadable ..     => "unable to read roll log, starting empty"
  | logNoArray ..        => "roll log is not a JSON array, starting empty"
  | entrySkipped ..      => "skipping malformed roll log entry"
  | recorded ..          => "recorded roll"
  | rolled ..            => "rolled"
  | rerolling ..         => "rerolling"
  | handlingRoll ..      => "handling roll"
  | handlingReroll ..    => "handling reroll"
  | rollFailed ..        => "roll failed"
  | rerollFailed ..      => "reroll failed"
  | staleIgnored ..      => "ignoring stale message"
  | watermarkMissing ..  => "no watermark loaded"
  | watermarkIgnored ..  => "ignoring unparseable watermark"
  | watermarkNotSaved .. => "unable to persist watermark"

/-- The fields of a notice. -/
def fields : Notice → List (String × String)
  | logOpened entries capacity =>
    [("entries", Decimal.text entries), ("capacity", Decimal.text capacity)]
  | logMissing path => [("path", path)]
  | logUnreadable path => [("path", path)]
  | logNoArray path => [("path", path)]
  | entrySkipped path index => [("path", path), ("index", Decimal.text index)]
  | recorded reference request => [("reference", reference.token), ("request", request.text)]
  | rolled request total reference =>
    [("request", request.text), ("total", String.ofList (Decimal.integer total.toInt)),
      ("reference", reference.token)]
  | rerolling reference request => [("reference", reference.token), ("request", request.text)]
  | handlingRoll user command => [("user", user), ("command", command)]
  | handlingReroll user command => [("user", user), ("command", command)]
  | rollFailed user request error => [("user", user), ("request", request.text), ("error", error)]
  | rerollFailed user reference error =>
    [("user", user), ("reference", reference.token), ("error", error)]
  | staleIgnored sender timestamp =>
    [("sender", sender), ("timestamp", String.ofList timestamp.noticeStamp)]
  | watermarkMissing path => [("path", path)]
  | watermarkIgnored path => [("path", path)]
  | watermarkNotSaved path => [("path", path)]

end Notice

end ChatDice
