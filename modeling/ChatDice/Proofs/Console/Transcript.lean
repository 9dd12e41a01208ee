import ChatDice.Console.Run
import ChatDice.Proofs.Bot.Freshness
import ChatDice.Proofs.Bot.Replies
import ChatDice.Proofs.Command.Places
import ChatDice.Proofs.Dice.Generator

/-! # Every command line is answered once

    A console run is told line by line: the text, the bot that met it, and what came of
    it.  Whatever the clock shows, each line is given a later time than the one before,
    so none is stale to the bot; and it is answered exactly if it is a command.  Reading
    a roll command a second time, for the report, agrees with the first reading inside
    the bot.

    - `exchanges`: the lines of a run with what came of them.
    - `replies_handleLines`, `reports_handleLines`: what a run puts out is what its
      exchanges put out, in order.
    - `Ready`: what a run needs to go on, kept by `ready_handleLine`.
    - `answeredOnce_handleLine`: one line; `complete_of_ready`: all lines.
    - `run_complete`: a whole run.
    - `located_of_mem_reports`: every report of a run shows a place of the text it is about.
-/

namespace ChatDice.Console

variable {σ : Type} [DieSource σ]

/-! ## Exchanges -/

/-- What happened at a line of a run: its text, the bot that met it, and what came
of it. -/
structure Exchange (σ : Type) where
  text     : String
  met      : Bot σ
  handling : Handling σ

namespace Exchange

/-- The time given to the line. -/
def timestamp (x : Exchange σ) : Instant := x.handling.progress.last

/-- The text without the white space around it. -/
def body (x : Exchange σ) : List Char := Text.trim x.text.toList

/-- The line of output, if there is one. -/
def output? (x : Exchange σ) : Option String :=
  match x.handling.reply with
  | .ok reply => reply
  | .error _  => none

end Exchange

/-- The exchanges of a run, up to a line that is no text or that halts the bot. -/
def exchanges (user : String) (p : Progress σ) : List Line → List (Exchange σ)
  | []            => []
  | line :: lines =>
    match line.text with
    | none      => []
    | some text =>
      let h := handleLine user p text line.arrival line.recorded
      ⟨text, p.bot, h⟩ ::
        match h.reply with
        | .ok _    => exchanges user h.progress lines
        | .error _ => []

omit [DieSource σ] in
/-- The end of a run puts nothing out, whether the log could be saved or not. -/
theorem finish_silent (b : Bot σ) : (finish b).replies = [] ∧ (finish b).reports = [] := by
  unfold finish
  split
  · exact ⟨rfl, rfl⟩
  · exact ⟨rfl, rfl⟩

/-- The run puts out what its exchanges put out, in order. -/
theorem replies_handleLines (user : String) (p : Progress σ) (lines : List Line) :
    (handleLines user p lines).replies = (exchanges user p lines).filterMap (·.output?) := by
  induction lines generalizing p with
  | nil => exact (finish_silent p.bot).1
  | cons line lines ih =>
    rw [handleLines, exchanges]
    -- A line that is no text ends the run.
    cases line.text with
    | none => rfl
    | some text =>
      dsimp only
      cases hreply : (handleLine user p text line.arrival line.recorded).reply with
      | ok reply =>
        dsimp only
        rw [List.filterMap_cons, ih]
        simp only [Exchange.output?, hreply]
        cases reply with
        | none => rfl
        | some reply => rfl
      -- A halt ends it too, and puts nothing out.
      | error _ => simp [Exchange.output?, hreply]

/-- A line that halts the bot is not reported. -/
theorem reports_handleLine_of_error {user : String} {p : Progress σ} {text : String}
    {arrival recorded : Instant} {cause : Halt}
    (h : (handleLine user p text arrival recorded).reply = .error cause) :
    (handleLine user p text arrival recorded).reports = [] := by
  unfold handleLine at h ⊢
  dsimp only at h ⊢
  rw [h]

theorem reports_handleLines (user : String) (p : Progress σ) (lines : List Line) :
    (handleLines user p lines).reports =
      (exchanges user p lines).flatMap (·.handling.reports) := by
  induction lines generalizing p with
  | nil => exact (finish_silent p.bot).2
  | cons line lines ih =>
    rw [handleLines, exchanges]
    cases line.text with
    | none => rfl
    | some text =>
      dsimp only
      rw [List.flatMap_cons]
      -- Only lines that the bot answers or passes over go on to the next one.
      cases hreply : (handleLine user p text line.arrival line.recorded).reply with
      | ok reply =>
        dsimp only
        rw [ih]
      | error _ => rw [reports_handleLine_of_error hreply]; rfl

/-! ## Places of reports -/

omit [DieSource σ] in
theorem located_of_mem_reportsOn {body : List Char} {r : Report} (h : r ∈ reportsOn body) :
    r.miss.Located (String.ofList r.text) := by
  unfold reportsOn at h
  split at h
  · obtain ⟨m, hm, rfl⟩ := List.mem_map.1 h
    exact Command.located_of_mem_rollErrors hm
  · cases h

theorem located_of_mem_handleLine {user : String} {p : Progress σ} {text : String}
    {arrival recorded : Instant} {r : Report}
    (h : r ∈ (handleLine user p text arrival recorded).reports) :
    r.miss.Located (String.ofList r.text) := by
  unfold handleLine at h
  dsimp only at h
  split at h
  · exact located_of_mem_reportsOn h
  · cases h

theorem located_of_mem_handleLines {user : String} {p : Progress σ} {lines : List Line} :
    ∀ r ∈ (handleLines user p lines).reports, r.miss.Located (String.ofList r.text) := by
  induction lines generalizing p with
  | nil =>
    rw [handleLines, (finish_silent p.bot).2]
    exact List.forall_mem_nil _
  | cons line lines ih =>
    rw [handleLines]
    cases line.text with
    | none => exact List.forall_mem_nil _
    | some text =>
      dsimp only
      split
      · -- Reports of this line come before those of the others.
        exact List.forall_mem_append.2 ⟨fun _ => located_of_mem_handleLine, ih⟩
      · exact List.forall_mem_nil _

/-- Whatever is typed, each report of a run can be shown in the text that was read: the
span of its miss is one whole character of it, or is empty at its end. -/
theorem located_of_mem_reports (settings : Settings) (user : String) (source : σ) (d : Disk)
    (start : Instant) (lines : List Line) :
    ∀ r ∈ (run settings user source d start lines).reports,
      r.miss.Located (String.ofList r.text) :=
  located_of_mem_handleLines

/-! ## One line -/

/-- A line was not stale to the bot, got a reply exactly if it is a command, and was
reported, once, exactly if the reply is the usage line of rolls. -/
structure Exchange.AnsweredOnce (user : String) (x : Exchange σ) : Prop where
  fresh      : x.met.watermark.isFresh x.timestamp = true
  replied    : ∃ reply, x.handling.reply = .ok reply ∧
    (reply.isSome = true ↔ Bot.IsCommand x.body)
  reported   : x.output? = some (Bot.usageLine (displayName user)) →
    ∃ miss, x.handling.reports = [⟨Text.lowercase x.body, miss⟩]
  unreported : x.output? ≠ some (Bot.usageLine (displayName user)) → x.handling.reports = []

/-- A command that is no roll command, or that can be read, is not reported. -/
theorem reportsOn_of_not {body : List Char}
    (h : ¬ (Command.isRoll body = true ∧ Command.roll? body = none)) : reportsOn body = [] := by
  unfold reportsOn
  split
  · next hroll =>
    obtain ⟨q, hq⟩ := Option.ne_none_iff_exists'.1 fun hnone => h ⟨hroll, hnone⟩
    rw [Command.rollErrors_of_some hq]
    rfl
  · rfl

theorem reportsOn_of_none {body : List Char} (hroll : Command.isRoll body = true)
    (hnone : Command.roll? body = none) :
    ∃ miss, reportsOn body = [⟨Text.lowercase body, miss⟩] := by
  obtain ⟨miss, hmiss⟩ := Command.rollErrors_of_none hnone
  refine ⟨miss, ?_⟩
  rw [reportsOn, if_pos hroll, hmiss]
  rfl

theorem lt_timestampAfter (last arrival : Instant) : last < timestampAfter last arrival :=
  (Instant.lt_next last).trans_le (le_max_right arrival last.next)

omit [DieSource σ] in
@[simp] theorem timestamp_mk (text : String) (met : Bot σ) (h : Handling σ) :
    (⟨text, met, h⟩ : Exchange σ).timestamp = h.progress.last := rfl

@[simp] theorem last_handleLine (user : String) (p : Progress σ) (text : String)
    (arrival recorded : Instant) :
    (handleLine user p text arrival recorded).progress.last = timestampAfter p.last arrival := rfl

section Line

variable [UnendingSource σ] {p : Progress σ} {arrival recorded : Instant} {k : Nat}

/-- A fresh line is answered once. -/
theorem answeredOnce_handleLine (user text : String)
    (hfresh : p.bot.watermark.isFresh (timestampAfter p.last arrival) = true)
    (hlength : p.bot.table.log.entries.length ≤ k)
    (hcandidates : RollLog.HasCandidates recorded.referenceStamp k) :
    (⟨text, p.bot, handleLine user p text arrival recorded⟩ : Exchange σ).AnsweredOnce user := by
  let m : Message := ⟨text, user, timestampAfter p.last arrival⟩
  -- The watermark moves before the body is answered, and leaves the log alone.
  obtain ⟨reply, hbody, hsome, husage⟩ :=
    Bot.exists_answered (b := (p.bot.advance m.timestamp).1) hcandidates hlength
      (displayName user) (Text.trim text.toList)
  have hanswer : (p.bot.handle m recorded).answer = .ok reply :=
    (Bot.handle_of_fresh (m := m) recorded hfresh).1.trans hbody
  have hreply : (handleLine user p text arrival recorded).reply = .ok reply := by
    rw [handleLine]
    exact hanswer
  have hreports : (handleLine user p text arrival recorded).reports =
      if reply.isSome then reportsOn (Text.trim text.toList) else [] := by
    rw [handleLine]
    dsimp only
    rw [hanswer]
    cases reply with
    | none => rfl
    | some _ => rfl
  constructor
  · rwa [timestamp_mk, last_handleLine]
  · exact ⟨reply, hreply, hsome⟩
  · intro hline
    simp only [Exchange.output?, hreply] at hline
    obtain ⟨hroll, hnone⟩ := husage.1 hline
    dsimp only
    rw [hreports, hline]
    exact reportsOn_of_none hroll hnone
  · intro hline
    simp only [Exchange.output?, hreply] at hline
    dsimp only
    rw [hreports, reportsOn_of_not (fun h => hline (husage.2 h))]
    split
    · rfl
    · rfl

end Line

/-! ## All lines -/

/-- What a run needs to go on: text only, a first line that is newer than the watermark,
and more candidates for a reference than the log keeps entries. -/
structure Ready (k : Nat) (p : Progress σ) (lines : List Line) : Prop where
  isText     : ∀ line ∈ lines, line.text ≠ none
  fresh      : ∀ line ∈ lines.head?,
    p.bot.watermark.isFresh (timestampAfter p.last line.arrival) = true
  capacity   : p.bot.table.log.capacity = k
  room       : p.bot.table.log.entries.length ≤ k
  candidates : ∀ line ∈ lines, RollLog.HasCandidates line.recorded.referenceStamp k

/-- A line leaves the watermark at its own time, which is before that of the next. -/
theorem ready_handleLine (user : String) {k : Nat} {p : Progress σ} {line : Line}
    {lines : List Line} (ready : Ready k p (line :: lines)) (text : String) :
    Ready k (handleLine user p text line.arrival line.recorded).progress lines where
  isText line hline     := ready.isText line (List.mem_cons_of_mem _ hline)
  fresh next _          := by
    -- The line is answered, so the watermark is its time, and the clock moves on.
    have hmark := Bot.watermark_handle_of_fresh
      (m := ⟨text, user, timestampAfter p.last line.arrival⟩) line.recorded
      (ready.fresh line rfl)
    show (p.bot.handle _ line.recorded).bot.watermark.isFresh _ = true
    rw [hmark]
    exact decide_eq_true (lt_timestampAfter _ next.arrival)
  capacity              := (Bot.capacity_handle _ _ _).trans ready.capacity
  room                  := by
    have hroom := ready.room
    rw [← ready.capacity] at hroom ⊢
    exact Bot.length_handle_le hroom
  candidates line hline := ready.candidates line (List.mem_cons_of_mem _ hline)

/-- All lines of a run were answered, in order and at increasing times. -/
structure Complete (user : String) (p : Progress σ) (lines : List Line) : Prop where
  texts     : (exchanges user p lines).map (some ·.text) = lines.map (·.text)
  ordered   : (p.last :: (exchanges user p lines).map (·.timestamp)).Pairwise (· < ·)
  answered  : ∀ x ∈ exchanges user p lines, x.AnsweredOnce user
  notHalted : ∀ cause, (handleLines user p lines).exit ≠ .halted cause

theorem complete_of_ready [UnendingSource σ] {user : String} {k : Nat} {p : Progress σ}
    {lines : List Line} (ready : Ready k p lines) : Complete user p lines := by
  induction lines generalizing p with
  | nil =>
    refine ⟨rfl, List.pairwise_singleton _ _, List.forall_mem_nil _, ?_⟩
    intro cause
    rw [handleLines, finish]
    split
    · nofun
    · nofun
  | cons line lines ih =>
    obtain ⟨text, htext⟩ := Option.ne_none_iff_exists'.1 (ready.isText line List.mem_cons_self)
    have hanswered := answeredOnce_handleLine user text (ready.fresh line rfl) ready.room
      (ready.candidates line List.mem_cons_self)
    obtain ⟨reply, hreply, -⟩ := hanswered.replied
    -- There was a reply or silence, no halt, so the run goes on to the other lines.
    have hlater := ih (ready_handleLine user ready text)
    have hexchanges : exchanges user p (line :: lines) =
        ⟨text, p.bot, handleLine user p text line.arrival line.recorded⟩ ::
          exchanges user (handleLine user p text line.arrival line.recorded).progress lines := by
      rw [exchanges, htext]
      dsimp only at hreply ⊢
      rw [hreply]
    constructor
    · rw [hexchanges, List.map_cons, List.map_cons, hlater.texts, htext]
    · have hordered := hlater.ordered
      rw [last_handleLine] at hordered
      rw [hexchanges, List.map_cons, timestamp_mk, last_handleLine, List.pairwise_cons]
      refine ⟨?_, hordered⟩
      -- The time of this line is later than the last one, and all others are later still.
      have hlt := lt_timestampAfter p.last line.arrival
      intro t ht
      rcases List.mem_cons.1 ht with rfl | ht
      · exact hlt
      · exact hlt.trans ((List.pairwise_cons.1 hordered).1 t ht)
    · rw [hexchanges]
      exact List.forall_mem_cons.2 ⟨hanswered, hlater.answered⟩
    · intro cause
      rw [handleLines, htext]
      dsimp only at hreply ⊢
      rw [hreply]
      exact hlater.notHalted cause

/-- **Every command line is answered once.**  Take any lines of text, whatever the clock
shows, and any source that never ends.  Suppose that the watermark at the start, if
there is one, is before the time of the first line, and that a digest gives more
candidates for a reference than the log keeps entries.  Then every line is given a
later time than the one before, and none is stale.  What is put out is one reply for
each command, in order, and one report for each line whose reply is the usage line of
rolls. -/
theorem run_complete [UnendingSource σ] (settings : Settings) (user : String) (source : σ)
    (d : Disk) (start : Instant) (lines : List Line)
    (htext : ∀ line ∈ lines, line.text ≠ none)
    (hmark : ∀ last ∈ (Watermark.start d settings.watermark).1.last, ∀ line ∈ lines.head?,
      last < timestampAfter start line.arrival)
    (hcandidates : ∀ line ∈ lines,
      RollLog.HasCandidates line.recorded.referenceStamp (max settings.logCapacity 1)) :
    let p : Progress σ := ⟨(Bot.ofSettings settings source d).1, start⟩
    Complete user p lines ∧
      (run settings user source d start lines).replies =
        (exchanges user p lines).filterMap (·.output?) ∧
      (run settings user source d start lines).reports =
        (exchanges user p lines).flatMap (·.handling.reports) := by
  intro p
  have ready : Ready (max settings.logCapacity 1) p lines :=
    -- At the start the file shows the watermark, and the log is cut to its capacity.
    { isText     := htext
      fresh line hline := by
        show (Watermark.start d settings.watermark).1.isFresh _ = true
        unfold Watermark.isFresh
        split
        · next last hlast => exact decide_eq_true (hmark last hlast line hline)
        · rfl
      capacity   := rfl
      room       := RollLog.length_ofEntries_le _ _
      candidates := hcandidates }
  exact ⟨complete_of_ready ready, replies_handleLines user p lines,
    reports_handleLines user p lines⟩

/-- A line that is recorded, if at all, at the fifth second. -/
def typed (text : String) (seconds : Int) : Line := ⟨some text, ⟨seconds, 0⟩, ⟨5, 0⟩⟩

/-- Three commands and a greeting, typed while the clock goes back. -/
def typedLines : List Line :=
  [typed " /ping" 5, typed "hello" 5, typed "/ROLL 2d6" 3, typed "/roll six" 0]

/-- Settings with room for one entry, and with a watermark. -/
def watchedSettings : Settings :=
  { Settings.standard with logCapacity := 0, watermark := some "last_seen" }

/-- A disk with a watermark of the fourth second. -/
def watchedDisk : Disk := ⟨[(["last_seen"], .text "1970-01-01T00:00:04+00:00")]⟩

/-- The three commands get their replies, and the last of them is reported. -/
theorem run_complete_typedLines :
    let f := run watchedSettings "@you:localhost" (⟨1⟩ : Wyrand) watchedDisk ⟨3, 0⟩ typedLines
    ∃ xs : List (Exchange Wyrand), (∀ x ∈ xs, x.AnsweredOnce "@you:localhost") ∧
      xs.map (·.text) = [" /ping", "hello", "/ROLL 2d6", "/roll six"] ∧
      xs.map (·.timestamp) = [⟨5, 0⟩, ⟨5, 1⟩, ⟨5, 2⟩, ⟨5, 3⟩] ∧
      f.replies = ["pong! you",
        "you rolled: 2d6 [5, 5] = 10 (ref 2699ce625ee99ea385797e81cb9357e5)",
        Bot.usageLine "you"] ∧
      f.reports.map (·.text) = ["/roll six".toList] := by
  intro f
  have htext : ∀ line ∈ typedLines, line.text ≠ none := by decide
  have hmark : ∀ last ∈ (Watermark.start watchedDisk watchedSettings.watermark).1.last,
      ∀ line ∈ typedLines.head?, last < timestampAfter ⟨3, 0⟩ line.arrival := by decide +kernel
  -- The first two candidates of the fifth second differ.
  have hcandidates : ∀ line ∈ typedLines, RollLog.HasCandidates line.recorded.referenceStamp
      (max watchedSettings.logCapacity 1) := by
    intro line hline
    have hrecorded : ∀ line ∈ typedLines, line.recorded = ⟨5, 0⟩ := by decide
    rw [hrecorded line hline]
    exact ⟨[1, 2], by decide, by decide +kernel⟩
  obtain ⟨complete, hreplies, hreports⟩ := run_complete watchedSettings "@you:localhost"
    (⟨1⟩ : Wyrand) watchedDisk ⟨3, 0⟩ typedLines htext hmark hcandidates
  refine ⟨_, complete.answered, by decide +kernel, by decide +kernel, ?_, ?_⟩
  · exact hreplies.trans (by decide +kernel)
  · rw [show f.reports = _ from hreports]
    decide +kernel

end ChatDice.Console
