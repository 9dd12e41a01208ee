import ChatDice.Bot.Bot
import ChatDice.Console.Invocation

/-! # Console runs

    On a console every line of input is a message, and every reply a line of
    output.  A roll command that cannot be read is also reported with the place
    where reading failed.

    Each message must be newer than the one before, however the clock behaves: its
    time is the clock's, or the instant after the last message if that is later.
-/

namespace ChatDice.Console

/-! ## Lines -/

/-- Splits bytes after each line feed; `line` is the line so far, in reverse
order. -/
def splitLines (line : List UInt8) : List UInt8 → List (List UInt8)
  | []      => if line.isEmpty then [] else [line.reverse]
  | b :: bs => if b = 0x0A then (b :: line).reverse :: splitLines [] bs else splitLines (b :: line) bs

/-- The text of a line of bytes, if it is one. -/
def lineText (bytes : List UInt8) : Option String :=
  (String.fromUTF8? ⟨bytes.toArray⟩).map fun s =>
    String.ofList (match s.toList.reverse with
      | '\n' :: '\r' :: rest => rest.reverse
      | '\n' :: rest         => rest.reverse
      | rest                 => rest.reverse)

/-- A line of input: its text, if it is one, and the clock when it arrived and when
its roll was recorded. -/
structure Line where
  text     : Option String
  arrival  : Instant
  recorded : Instant

/-! ## Runs -/

/-- How a run ended. -/
inductive Exit
  | success
  /-- Unusable input, or a log that could not be saved. -/
  | failure
  /-- The bot could not go on. -/
  | halted (h : Halt)
  deriving DecidableEq

/-- The exit code of the program. -/
def Exit.code : Exit → UInt8
  | success  => 0
  | failure  => 1
  | halted _ => 101

/-- A run in progress: the bot, and the time of the last message. -/
structure Progress (σ : Type) where
  bot  : Bot σ
  last : Instant

/-- A report on a roll command: the text that was read and why it was refused. -/
structure Report where
  text : List Char
  miss : Command.Miss

/-- What one line comes to. -/
structure Handling (σ : Type) where
  progress : Progress σ
  reply    : Except Halt (Option String)
  reports  : List Report

/-- The reports on a message that was answered. -/
def reportsOn (body : List Char) : List Report :=
  if Command.isRoll body then
    (Command.rollErrors body).map fun m => ⟨Text.lowercase body, m⟩
  else []

/-- The time given to a message: later than that of the message before. -/
def timestampAfter (last arrival : Instant) : Instant := Instant.latest arrival last.next

variable {σ : Type} [DieSource σ]

/-- Handles a line of text. -/
def handleLine (user : String) (p : Progress σ) (text : String) (arrival recorded : Instant) :
    Handling σ :=
  let timestamp := timestampAfter p.last arrival
  let h := p.bot.handle ⟨text, user, timestamp⟩ recorded
  let reports := match h.answer with
    | .ok (some _) => reportsOn (Text.trim text.toList)
    | _            => []
  ⟨⟨h.bot, timestamp⟩, h.answer, reports⟩

/-- What a run leaves: how it ended, its replies and reports in order, and the bot. -/
structure Finished (σ : Type) where
  exit    : Exit
  replies : List String
  reports : List Report
  bot     : Bot σ

/-- Ends a run: the log is saved once more. -/
def finish (b : Bot σ) : Finished σ :=
  match b.table.flush with
  | .ok table => ⟨.success, [], [], { b with table := table }⟩
  | .error _  => ⟨.failure, [], [], b⟩

/-- Handles lines in order.  A line that is no text ends the run at once. -/
def handleLines (user : String) (p : Progress σ) : List Line → Finished σ
  | []            => finish p.bot
  | line :: lines =>
    match line.text with
    | none      => ⟨.failure, [], [], p.bot⟩
    | some text =>
      let h := handleLine user p text line.arrival line.recorded
      match h.reply with
      | .ok reply    =>
        let f := handleLines user h.progress lines
        { f with replies := reply.toList ++ f.replies, reports := h.reports ++ f.reports }
      | .error cause => ⟨.halted cause, [], [], h.progress.bot⟩

/-- A whole run with given settings, starting at a given time. -/
def run (settings : Settings) (user : String) (source : σ) (d : Disk) (start : Instant)
    (lines : List Line) : Finished σ :=
  handleLines user ⟨(Bot.ofSettings settings source d).1, start⟩ lines

end ChatDice.Console
