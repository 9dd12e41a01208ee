import ChatDice.Bot.Table
import ChatDice.Bot.Watermark
import ChatDice.Command.Read
import ChatDice.Settings.Settings
import ChatDice.Storage.Vault

/-! # The bot

    The bot answers `/ping`, `/credits`, `/roll` and `/reroll`.  A message that is
    not newer than the watermark is ignored; any other moves the watermark
    forward, whether or not it is a command.
-/

namespace ChatDice

/-! ## Texts -/

/-- The answer to a roll command that cannot be read. -/
def rollUsage : String :=
  "usage: /roll <count>d<sides>[+/-modifier][dh|dl|kh|kl|e[threshold]|i[threshold]]"

/-- The answer to a reroll command that cannot be read. -/
def rerollUsage : String := "usage: /reroll <reference>"

/-- Name and version of the program. -/
def programName : String := "rollbot 0.1.0"

/-- The answer to `/credits`. -/
def credits : String := programName ++ ", licensed under LGPL-3.0-or-later"

/-! ## Messages -/

/-- A message from the chat. -/
structure Message where
  body      : String
  sender    : String
  timestamp : Instant
  deriving DecidableEq

/-- The name to address a sender by: what stands between the at sign and the first
colon of an identifier such as `@alice:example.org`, or else all of it. -/
def displayName (sender : String) : String :=
  match sender.toList with
  | '@' :: rest =>
    if rest.contains ':' then String.ofList (rest.takeWhile (· != ':')) else sender
  | _ => sender

/-- The commands by their first word. -/
inductive Route
  | ping
  | credits
  | roll
  | reroll
  deriving DecidableEq

/-- Which command a trimmed body is meant as, if any. -/
def Route.of? (body : List Char) : Option Route :=
  if body = "/ping".toList then some ping
  else if body = "/credits".toList then some credits
  else if Command.isRoll body then some roll
  else if Command.isReroll body then some reroll
  else none

/-! ## Bots -/

/-- A bot. -/
structure Bot (σ : Type) where
  table     : Table σ Vault
  watermark : Watermark
  listLimit : Nat

/-- What handling something gives: an answer, or the reason why the bot cannot go
on; the bot after it; and notices. -/
structure Handled (σ α : Type) where
  answer  : Except Halt α
  bot     : Bot σ
  notices : List Notice

namespace Bot

variable {σ : Type}

/-- A bot with given settings.  The log is loaded before the watermark. -/
def start (settings : Settings) (source : σ) (v : Vault) : Bot σ × List Notice :=
  let (log, logNotices) := RollLog.load v settings.logCapacity
  let (watermark, markNotices) := Watermark.start v.disk settings.watermark
  let table := { source, log, store := v, rollLimit := settings.rollLimit }
  ({ table, watermark, listLimit := settings.listLimit }, logNotices ++ markNotices)

/-- A bot whose log is in the file that the settings name. -/
def ofSettings (settings : Settings) (source : σ) (d : Disk) : Bot σ × List Notice :=
  start settings source ⟨d, .file settings.rollLog⟩

/-- Request, outcome and reference as shown in replies. -/
def shown (b : Bot σ) (q : Request) (o : Outcome) (r : Reference) : String :=
  q.text ++ " " ++ o.describe (some b.listLimit) ++ " (ref " ++ r.token ++ ")"

variable [DieSource σ]

/-- Answers a roll command. -/
def answerRoll (b : Bot σ) (user : String) (body : List Char) (now : Instant) :
    Handled σ String :=
  match Command.roll? body with
  | none   => ⟨.ok (user ++ ": " ++ rollUsage), b, []⟩
  | some q =>
    let p := b.table.roll now q
    let b := { b with table := p.table }
    match p.answer with
    | .ok (o, r)          => ⟨.ok (user ++ " rolled: " ++ b.shown q o r), b, p.notices⟩
    | .error (.failed f)  =>
      ⟨.ok (user ++ ": " ++ f.message), b, p.notices ++ [.rollFailed user q f.message]⟩
    | .error (.halted h)  => ⟨.error h, b, p.notices⟩

/-- Answers a reroll command. -/
def answerReroll (b : Bot σ) (user : String) (body : List Char) (now : Instant) :
    Handled σ String :=
  match Command.reroll? body with
  | none       => ⟨.ok (user ++ ": " ++ rerollUsage), b, []⟩
  | some token =>
    let reference : Reference := ⟨String.ofList token⟩
    let p := b.table.replay now reference
    let b := { b with table := p.table }
    match p.answer with
    | .ok (q, o, r)      => ⟨.ok (user ++ " rerolled: " ++ b.shown q o r), b, p.notices⟩
    | .error (.failed f) =>
      ⟨.ok (user ++ ": " ++ f.message), b, p.notices ++ [.rerollFailed user reference f.message]⟩
    | .error (.halted h) => ⟨.error h, b, p.notices⟩

/-- Answers a command, or gives no answer to what is none. -/
def answer (b : Bot σ) (user : String) (body : List Char) (now : Instant) :
    Handled σ (Option String) :=
  match Route.of? body with
  | none          => ⟨.ok none, b, []⟩
  | some .ping    => ⟨.ok (some ("pong! " ++ user)), b, []⟩
  | some .credits => ⟨.ok (some ChatDice.credits), b, []⟩
  | some .roll    =>
    let h := b.answerRoll user body now
    ⟨h.answer.map some, h.bot, .handlingRoll user (String.ofList body) :: h.notices⟩
  | some .reroll  =>
    let h := b.answerReroll user body now
    ⟨h.answer.map some, h.bot, .handlingReroll user (String.ofList body) :: h.notices⟩

/-- The bot after its watermark moved forward. -/
def advance (b : Bot σ) (t : Instant) : Bot σ × List Notice :=
  let (watermark, disk, notices) := b.watermark.advance b.table.store.disk t
  let store := { b.table.store with disk := disk }
  ({ b with watermark := watermark, table := { b.table with store := store } }, notices)

/-- Handles a message; `now` is the time of a roll that is recorded on the way. -/
def handle (b : Bot σ) (m : Message) (now : Instant) : Handled σ (Option String) :=
  if b.watermark.isFresh m.timestamp then
    -- The watermark moves first: a message that halts the bot is not read again.
    let (b, moved) := b.advance m.timestamp
    let h := b.answer (displayName m.sender) (Text.trim m.body.toList) now
    ⟨h.answer, h.bot, moved ++ h.notices⟩
  else ⟨.ok none, b, [.staleIgnored m.sender m.timestamp]⟩

end Bot

end ChatDice
