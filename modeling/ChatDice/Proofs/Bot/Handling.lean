import ChatDice.Bot.Bot
import ChatDice.Proofs.Bot.Table
import ChatDice.Proofs.Command.Routing

/-! # Handling one message

    What a message asks to roll, what is logged for it, and what the bot makes of
    it: `handle` is told by `request?` and one roll at the table.

    - `route_of_isRoll`, `route_of_isReroll`: commands by their keyword.
    - `handle_of_request?`: a message with a request is answered by its roll.
    - `log_handle_of_none`: any other message leaves the log alone.
    - `held_handle`: an entry is held while few enough others are logged.
    - `answer_of_logged?`: the reply to what is logged ends in its reference.
-/

namespace ChatDice.Bot

variable {σ : Type}

/-! ## Routes -/

/-- A body that starts with the keyword of rolls is neither of the two words. -/
theorem route_of_isRoll {body : List Char} (h : Command.isRoll body = true) :
    Route.of? body = some .roll := by
  have hping : body ≠ "/ping".toList := by
    rintro rfl
    exact absurd h (by decide)
  have hcredits : body ≠ "/credits".toList := by
    rintro rfl
    exact absurd h (by decide)
  rw [Route.of?, if_neg hping, if_neg hcredits, if_pos h]

theorem route_of_isReroll {body : List Char} (h : Command.isReroll body = true) :
    Route.of? body = some .reroll := by
  have hping : body ≠ "/ping".toList := by
    rintro rfl
    exact absurd h (by decide)
  have hcredits : body ≠ "/credits".toList := by
    rintro rfl
    exact absurd h (by decide)
  rw [Route.of?, if_neg hping, if_neg hcredits, Command.not_isRoll_of_isReroll h, h]
  rfl

/-! ## What a message asks for -/

/-- The request that a message asks to roll: it must be fresh, and a roll command
or a reroll command for a logged reference. -/
def request? (b : Bot σ) (m : Message) : Option Request :=
  if b.watermark.isFresh m.timestamp then
    let body := Text.trim m.body.toList
    match Route.of? body with
    | some .roll   => Command.roll? body
    | some .reroll =>
      (Command.reroll? body).bind fun token => b.table.log.lookup? ⟨String.ofList token⟩
    | _            => none
  else none

/-- The table at which a fresh message is rolled, after the watermark has moved. -/
def tableFor (b : Bot σ) (m : Message) : Table σ Vault := (b.advance m.timestamp).1.table

@[simp] theorem log_tableFor (b : Bot σ) (m : Message) : (b.tableFor m).log = b.table.log := rfl

/-- The reply to a roll by what came of it; `verb` stands between the name and a
result. -/
def replyTo (b : Bot σ) (user verb : String) (q : Request) :
    Except Fault (Outcome × Reference) → Except Halt (Option String)
  | .ok (o, r)          => .ok (some (user ++ verb ++ b.shown q o r))
  | .error (.failed f)  => .ok (some (user ++ ": " ++ f.message))
  | .error (.halted h)  => .error h

variable [DieSource σ]

/-- The request, outcome and reference that are logged for a message. -/
def logged? (b : Bot σ) (m : Message) (now : Instant) : Option (Request × Outcome × Reference) :=
  (b.request? m).bind fun q =>
    match ((b.tableFor m).roll now q).answer with
    | .ok (o, r) => some (q, o, r)
    | .error _   => none

/-! ## Answering -/

theorem answerRoll_of_roll? {b : Bot σ} (user : String) {body : List Char} (now : Instant)
    {q : Request} (h : Command.roll? body = some q) :
    (b.answerRoll user body now).bot.table = (b.table.roll now q).table ∧
      (b.answerRoll user body now).answer.map some =
        b.replyTo user " rolled: " q (b.table.roll now q).answer := by
  unfold answerRoll
  rw [h]
  dsimp only
  split
  · next hanswer => exact ⟨rfl, by rw [hanswer]; rfl⟩
  · next hanswer => exact ⟨rfl, by rw [hanswer]; rfl⟩
  · next hanswer => exact ⟨rfl, by rw [hanswer]; rfl⟩

/-- The request is looked up before it is rolled. -/
theorem answerReroll_of_lookup? {b : Bot σ} (user : String) {body token : List Char}
    (now : Instant) {q : Request} (htoken : Command.reroll? body = some token)
    (hq : b.table.log.lookup? ⟨String.ofList token⟩ = some q) :
    (b.answerReroll user body now).bot.table = (b.table.roll now q).table ∧
      (b.answerReroll user body now).answer.map some =
        b.replyTo user " rerolled: " q (b.table.roll now q).answer ∧
      Notice.rerolling ⟨String.ofList token⟩ q ∈ (b.answerReroll user body now).notices := by
  unfold answerReroll
  rw [htoken]
  dsimp only
  rw [Table.replay_of_lookup? now hq]
  dsimp only
  -- Whatever the roll comes to, the notice that it is a reroll comes first.
  cases hanswer : (b.table.roll now q).answer with
  | ok a => exact ⟨rfl, rfl, by simp [Except.map]⟩
  | error f =>
    cases f with
    | failed f => exact ⟨rfl, rfl, by simp [Except.map]⟩
    | halted h => exact ⟨rfl, rfl, by simp [Except.map]⟩

/-- A roll command that cannot be read changes nothing. -/
theorem bot_answerRoll_of_none {b : Bot σ} {user : String} {body : List Char} {now : Instant}
    (h : Command.roll? body = none) : (b.answerRoll user body now).bot = b := by
  unfold answerRoll
  rw [h]

theorem bot_answerReroll_of_none {b : Bot σ} {user : String} {body : List Char} {now : Instant}
    (h : ((Command.reroll? body).bind fun token =>
      b.table.log.lookup? ⟨String.ofList token⟩) = none) :
    (b.answerReroll user body now).bot = b := by
  unfold answerReroll
  split
  · rfl
  · next token htoken =>
    -- The command is well-formed, but nothing is logged under its reference.
    rw [htoken, Option.bind_some] at h
    dsimp only
    rw [Table.replay_of_not_found now h]

/-! ## Handling -/

/-- A fresh message is handled by answering its trimmed body. -/
theorem handle_of_fresh {b : Bot σ} {m : Message} (now : Instant)
    (h : b.watermark.isFresh m.timestamp = true) :
    (b.handle m now).answer = ((b.advance m.timestamp).1.answer (displayName m.sender)
        (Text.trim m.body.toList) now).answer ∧
      (b.handle m now).bot = ((b.advance m.timestamp).1.answer (displayName m.sender)
        (Text.trim m.body.toList) now).bot ∧
      ∀ n ∈ ((b.advance m.timestamp).1.answer (displayName m.sender)
        (Text.trim m.body.toList) now).notices, n ∈ (b.handle m now).notices := by
  unfold handle
  rw [if_pos h]
  exact ⟨rfl, rfl, fun n hn => List.mem_append_right _ hn⟩

/-- A stale message changes nothing. -/
theorem handle_of_stale {b : Bot σ} {m : Message} (now : Instant)
    (h : ¬ b.watermark.isFresh m.timestamp = true) :
    b.handle m now = ⟨.ok none, b, [.staleIgnored m.sender m.timestamp]⟩ := by
  unfold handle
  rw [if_neg h]

/-- A message with a request is answered by a roll of it, with the verb of its
command. -/
theorem handle_of_request? {b : Bot σ} {m : Message} (now : Instant) {q : Request}
    (h : b.request? m = some q) :
    (b.handle m now).bot.table = ((b.tableFor m).roll now q).table ∧
      ∃ verb, (Route.of? (Text.trim m.body.toList), verb) ∈
          [(some Route.roll, " rolled: "), (some Route.reroll, " rerolled: ")] ∧
        (b.handle m now).answer =
          b.replyTo (displayName m.sender) verb q ((b.tableFor m).roll now q).answer := by
  unfold request? at h
  split at h
  · next hfresh =>
    obtain ⟨hanswer, hbot, -⟩ := handle_of_fresh now hfresh
    rw [hanswer, hbot]
    unfold answer
    dsimp only at h
    -- Only two of the routes lead to a request.
    split at h
    · next hroute =>
      rw [hroute]
      obtain ⟨htable, hreply⟩ := answerRoll_of_roll? (b := (b.advance m.timestamp).1)
        (displayName m.sender) now h
      exact ⟨htable, " rolled: ", by simp, hreply⟩
    · next hroute =>
      rw [hroute]
      obtain ⟨token, htoken, hlookup⟩ := Option.bind_eq_some_iff.1 h
      obtain ⟨htable, hreply, -⟩ := answerReroll_of_lookup? (b := (b.advance m.timestamp).1)
        (displayName m.sender) now htoken hlookup
      exact ⟨htable, " rerolled: ", by simp, hreply⟩
    · cases h
  · cases h

/-- A fresh message without a request moves the watermark, and nothing else. -/
theorem bot_handle_of_none {b : Bot σ} {m : Message} {now : Instant}
    (hfresh : b.watermark.isFresh m.timestamp = true) (h : b.request? m = none) :
    (b.handle m now).bot = (b.advance m.timestamp).1 := by
  rw [(handle_of_fresh now hfresh).2.1]
  rw [request?, if_pos hfresh] at h
  dsimp only at h
  unfold answer
  split
  · rfl
  · rfl
  · rfl
  · next hroute =>
    -- A command without a request is not read, and changes nothing.
    rw [hroute] at h
    exact bot_answerRoll_of_none h
  · next hroute =>
    rw [hroute] at h
    exact bot_answerReroll_of_none h

/-- Any message without a request leaves the log alone. -/
theorem log_handle_of_none {b : Bot σ} {m : Message} {now : Instant} (h : b.request? m = none) :
    (b.handle m now).bot.table.log = b.table.log := by
  by_cases hfresh : b.watermark.isFresh m.timestamp = true
  · rw [bot_handle_of_none hfresh h]
    rfl
  · rw [handle_of_stale now hfresh]

/-! ## What is logged -/

theorem logged?_eq_some {b : Bot σ} {m : Message} {now : Instant} {q : Request} {o : Outcome}
    {r : Reference} (h : b.logged? m now = some (q, o, r)) :
    b.request? m = some q ∧ ((b.tableFor m).roll now q).answer = .ok (o, r) := by
  obtain ⟨q', hq', h⟩ := Option.bind_eq_some_iff.1 h
  split at h
  · next hanswer =>
    obtain ⟨rfl, hrest⟩ := Prod.mk.inj (Option.some.inj h)
    obtain ⟨rfl, rfl⟩ := Prod.mk.inj hrest
    exact ⟨hq', hanswer⟩
  · cases h

/-- Handling a message keeps the capacity of the log. -/
@[simp] theorem capacity_handle (b : Bot σ) (m : Message) (now : Instant) :
    (b.handle m now).bot.table.log.capacity = b.table.log.capacity := by
  cases h : b.request? m with
  | none => rw [log_handle_of_none h]
  | some q => rw [(handle_of_request? now h).1, Table.capacity_roll, log_tableFor]

/-- How many entries are logged for a message. -/
def logCount (b : Bot σ) (m : Message) (now : Instant) : Nat := (b.logged? m now).toList.length

variable {b : Bot σ} {m : Message} {now : Instant} {q : Request} {r : Reference} {newer : Nat}

/-- An entry is held after a message, with one more newer entry if one was logged. -/
theorem held_handle (hheld : b.table.log.Held r q newer)
    (hroom : newer + b.logCount m now < b.table.log.capacity) :
    (b.handle m now).bot.table.log.Held r q (newer + b.logCount m now) := by
  unfold logCount logged? at hroom ⊢
  cases hrequest : b.request? m with
  | none =>
    rw [log_handle_of_none hrequest]
    exact hheld
  | some q' =>
    -- A roll that fails logs nothing; one that succeeds makes the entry one place older.
    rw [hrequest, Option.bind_some] at hroom
    rw [(handle_of_request? now hrequest).1, Option.bind_some]
    cases hanswer : ((b.tableFor m).roll now q').answer with
    | error f => exact Table.held_roll_error hheld hanswer
    | ok a =>
      rw [hanswer] at hroom
      exact Table.held_roll_ok hheld hroom hanswer

/-- What is logged for a message is held after it, with none newer. -/
theorem held_of_logged? {o : Outcome} (h : b.logged? m now = some (q, o, r)) :
    (b.handle m now).bot.table.log.Held r q 0 := by
  obtain ⟨hrequest, hanswer⟩ := logged?_eq_some h
  rw [(handle_of_request? now hrequest).1]
  exact Table.held_of_roll hanswer

/-- The reply to a message for which something is logged ends in its reference. -/
theorem answer_of_logged? {o : Outcome} (h : b.logged? m now = some (q, o, r)) :
    ∃ shown, (b.handle m now).answer = .ok (some (shown ++ " (ref " ++ r.token ++ ")")) := by
  obtain ⟨hrequest, hanswer⟩ := logged?_eq_some h
  obtain ⟨-, verb, -, hreply⟩ := handle_of_request? now hrequest
  rw [hreply, hanswer]
  refine ⟨displayName m.sender ++ verb ++ (q.text ++ " " ++ o.describe (some b.listLimit)), ?_⟩
  simp only [replyTo, shown, String.append_assoc]

end ChatDice.Bot
