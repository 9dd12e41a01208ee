import ChatDice.Proofs.Bot.Replay
import ChatDice.Proofs.Bot.Watermark

/-! # Only record highs are handled

    A bot handles a message only if it is newer than all before it.  The watermark
    is what remains of these: the newest of its start and the messages seen since,
    whether they were commands or not and whether or not it could be kept in its
    file.

    - `Session`: the messages seen by a bot, with their answers.
    - `last_handle`: one message moves the watermark, or leaves it, as a maximum.
    - `fresh_of_session`: the filter lets through exactly the record highs.
-/

namespace ChatDice.Bot

variable {σ : Type} [DieSource σ]

/-! ## One message -/

theorem watermark_answerRoll (b : Bot σ) (user : String) (body : List Char) (now : Instant) :
    (b.answerRoll user body now).bot.watermark = b.watermark := by
  unfold answerRoll
  split
  · rfl
  · dsimp only
    split
    · rfl
    · rfl
    · rfl

theorem watermark_answerReroll (b : Bot σ) (user : String) (body : List Char) (now : Instant) :
    (b.answerReroll user body now).bot.watermark = b.watermark := by
  unfold answerReroll
  split
  · rfl
  · dsimp only
    split
    · rfl
    · rfl
    · rfl

/-- No answer moves the watermark. -/
theorem watermark_answer (b : Bot σ) (user : String) (body : List Char) (now : Instant) :
    (b.answer user body now).bot.watermark = b.watermark := by
  unfold answer
  split
  · rfl
  · rfl
  · rfl
  · exact watermark_answerRoll b user body now
  · exact watermark_answerReroll b user body now

/-- A fresh message moves the watermark to its time, whatever else comes of it. -/
theorem watermark_handle_of_fresh {b : Bot σ} {m : Message} (now : Instant)
    (h : b.watermark.isFresh m.timestamp = true) :
    (b.handle m now).bot.watermark = { b.watermark with last := some m.timestamp } := by
  rw [(handle_of_fresh now h).2.1, watermark_answer]
  show (b.watermark.advance b.table.store.disk m.timestamp).1 = _
  rw [Watermark.advance_of_fresh _ h]

/-- The watermark stays at the newest of all instants when one more is seen. -/
theorem last_handle {b : Bot σ} {times : List Instant} (h : b.watermark.last = times.max?)
    (m : Message) (now : Instant) :
    (b.handle m now).bot.watermark.last = (times ++ [m.timestamp]).max? := by
  have hiff := Watermark.isFresh_iff_of_max? (t := m.timestamp) h
  by_cases hfresh : b.watermark.isFresh m.timestamp = true
  · rw [watermark_handle_of_fresh now hfresh, Instant.max?_concat_of_lt (hiff.1 hfresh)]
  · -- Nothing changes, and some instant before is at least as new.
    rw [handle_of_stale now hfresh]
    rw [hiff] at hfresh
    push Not at hfresh
    obtain ⟨t', ht', hle⟩ := hfresh
    rw [h, Instant.max?_concat_of_le ht' hle]

/-! ## Sessions -/

/-- A message with the answer to it. -/
structure Turn where
  message : Message
  answer  : Except Halt (Option String)

/-- When the message was sent, if it was answered. -/
def Turn.answeredAt? (turn : Turn) : Option Instant :=
  match turn.answer with
  | .ok (some _) => some turn.message.timestamp
  | _            => none

theorem answeredAt?_eq_some {turn : Turn} {t : Instant} (h : turn.answeredAt? = some t) :
    t = turn.message.timestamp := by
  unfold Turn.answeredAt? at h
  split at h
  · exact (Option.some.inj h).symm
  · cases h

/-- The instants that a watermark has seen: its start and the messages since. -/
def seen (start : Option Instant) (turns : List Turn) : List Instant :=
  start.toList ++ turns.map (·.message.timestamp)

theorem seen_concat (start : Option Instant) (turns : List Turn) (turn : Turn) :
    seen start (turns ++ [turn]) = seen start turns ++ [turn.message.timestamp] := by
  unfold seen
  rw [List.map_append, List.append_assoc]
  rfl

/-- Bots that come after `b₀` when messages are handled, by the messages and their
answers.  Between messages the table may change in any way, with all that is on its
disk: this decides which writes succeed. -/
inductive Session (b₀ : Bot σ) : List Turn → Bot σ → Prop
  | start : Session b₀ [] b₀
  | table {turns : List Turn} {b : Bot σ} (session : Session b₀ turns b) (t : Table σ Vault) :
      Session b₀ turns { b with table := t }
  | message {turns : List Turn} {b : Bot σ} (session : Session b₀ turns b) (m : Message)
      (now : Instant) :
      Session b₀ (turns ++ [⟨m, (b.handle m now).answer⟩]) (b.handle m now).bot

theorem last_of_session {b₀ b : Bot σ} {turns : List Turn} (session : Session b₀ turns b) :
    b.watermark.last = (seen b₀.watermark.last turns).max? := by
  induction session with
  | start =>
    cases h : b₀.watermark.last with
    | none => rfl
    | some last => rfl
  | table _ _ ih => exact ih
  | message _ m now ih =>
    rw [seen_concat]
    exact last_handle ih m now

/-- Messages that are answered come in the order of their times. -/
theorem pairwise_answered_of_session {b₀ b : Bot σ} {turns : List Turn}
    (session : Session b₀ turns b) : (turns.filterMap Turn.answeredAt?).Pairwise (· < ·) := by
  induction session with
  | start => exact List.Pairwise.nil
  | table _ _ ih => exact ih
  | @message turns b session m now ih =>
    rw [List.filterMap_append]
    cases hanswered : Turn.answeredAt? ⟨m, (b.handle m now).answer⟩ with
    | none =>
      rw [List.filterMap_cons_none hanswered, List.filterMap_nil, List.append_nil]
      exact ih
    | some t =>
      -- Only a fresh message is answered, and it is newer than all before it.
      have hfresh : b.watermark.isFresh m.timestamp = true := by
        by_contra hstale
        rw [handle_of_stale now hstale] at hanswered
        cases hanswered
      have hnewer := (Watermark.isFresh_iff_of_max? (last_of_session session)).1 hfresh
      have ht : t = m.timestamp := answeredAt?_eq_some hanswered
      rw [List.filterMap_cons_some hanswered, List.filterMap_nil]
      refine List.pairwise_append.2 ⟨ih, List.pairwise_singleton _ _, ?_⟩
      intro t' ht' t'' ht''
      obtain ⟨turn, hturn, hanswered'⟩ := List.mem_filterMap.1 ht'
      rw [List.mem_singleton.1 ht'', ht, answeredAt?_eq_some hanswered']
      exact hnewer _ (List.mem_append_right _ (List.mem_map_of_mem hturn))

/-- **Exactly the record highs are handled.**  After any messages the watermark is
the newest of its start and their times, and those that were answered have strictly
increasing times.  The next message is fresh if and only if it is newer than all
these: then its trimmed body is answered, and the watermark moves to its time even
if it is no command.  Otherwise there is no answer, and nothing changes. -/
theorem fresh_of_session {b₀ b : Bot σ} {turns : List Turn} (session : Session b₀ turns b) :
    b.watermark.last = (seen b₀.watermark.last turns).max? ∧
    (turns.filterMap Turn.answeredAt?).Pairwise (· < ·) ∧
    ∀ (m : Message) (now : Instant),
      (b.watermark.isFresh m.timestamp = true ↔
        ∀ t ∈ seen b₀.watermark.last turns, t < m.timestamp) ∧
      (b.watermark.isFresh m.timestamp = true →
        (b.handle m now).answer = ((b.advance m.timestamp).1.answer (displayName m.sender)
          (Text.trim m.body.toList) now).answer ∧
        (b.handle m now).bot.watermark = { b.watermark with last := some m.timestamp }) ∧
      (¬ b.watermark.isFresh m.timestamp = true →
        b.handle m now = ⟨.ok none, b, [.staleIgnored m.sender m.timestamp]⟩) := by
  -- The watermark is the newest time seen, so being newer than it is being newer than all.
  have hlast := last_of_session session
  refine ⟨hlast, pairwise_answered_of_session session, fun m now => ⟨?_, ?_, ?_⟩⟩
  · exact Watermark.isFresh_iff_of_max? hlast
  · intro hfresh
    exact ⟨(handle_of_fresh now hfresh).1, watermark_handle_of_fresh now hfresh⟩
  · intro hstale
    exact handle_of_stale now hstale

/-- A bot starts with a watermark that it cannot write.  A message of the same time
and an older one are ignored; one that is no command still moves the watermark. -/
theorem fresh_of_session_unwritable :
    let b₀ : Bot Source := { exampleBot with watermark := ⟨some "/", some ⟨5, 0⟩⟩ }
    let first := b₀.handle (said "/ping" 5) ⟨0, 0⟩
    let second := first.bot.handle (said "hello" 9) ⟨0, 0⟩
    let third := second.bot.handle (said "/ping" 10) ⟨0, 0⟩
    first.bot = b₀ ∧ second.notices = [.watermarkNotSaved "/"] ∧ second.answer = .ok none ∧
      second.bot.watermark.last = some ⟨9, 0⟩ ∧ third.answer = .ok (some "pong! alice") ∧
      third.bot.watermark.last = some ⟨10, 0⟩ ∧
      (third.bot.handle (said "/ping" 10) ⟨0, 0⟩).bot = third.bot := by
  intro b₀ first second third
  have session : Session b₀ [⟨_, first.answer⟩, ⟨_, second.answer⟩, ⟨_, third.answer⟩] third.bot :=
    .message (.message (.message .start (said "/ping" 5) ⟨0, 0⟩) (said "hello" 9) ⟨0, 0⟩)
      (said "/ping" 10) ⟨0, 0⟩
  obtain ⟨hlast, -, hnext⟩ := fresh_of_session session
  obtain ⟨hfresh, -, hstale⟩ := hnext (said "/ping" 10) ⟨0, 0⟩
  -- Its time is that of the watermark, so the first message is stale.
  have hfirst : first = ⟨.ok none, b₀, [.staleIgnored "@alice:example.org" ⟨5, 0⟩]⟩ :=
    handle_of_stale _ (by decide)
  refine ⟨by rw [hfirst], by decide +kernel, by decide +kernel, by decide +kernel, by decide +kernel,
    ?_, ?_⟩
  · exact hlast.trans (by decide +kernel)
  · rw [hstale]
    rw [hfresh]
    decide

end ChatDice.Bot
