import ChatDice.Proofs.Bot.LetterCase
import ChatDice.Proofs.Bot.Rerolls
import ChatDice.Proofs.Log.Candidates

/-! # Every command gets a reply

    A fresh message gets a reply exactly if it is a command, and the reply is the usage
    line of rolls exactly if it is a roll command that cannot be read.  Nothing can stop
    the bot on the way, as long as its dice do not run out and there are more candidates
    for a reference than entries.

    - `IsCommand`: the bodies that are commands.
    - `not_halted_of_roll`: a roll gives a result or a failure.
    - `answered_word`, `answered_roll`, `answered_reroll`: replies to the commands.
    - `exists_reply`: the reply to any fresh message.
    - `length_handle_le`: no message makes the log outgrow its capacity.
-/

namespace ChatDice

/-! ## Rolls give a result or a failure -/

namespace Table

variable {σ S : Type} [DieSource σ] [Store S] {t : Table σ S} {now : Instant} {q : Request}

theorem not_halted_of_roll [UnendingSource σ] {k : Nat}
    (hcandidates : RollLog.HasCandidates now.referenceStamp k)
    (hlength : t.log.entries.length ≤ k) (h : Halt) :
    (t.roll now q).answer ≠ .error (.halted h) := by
  intro hanswer
  rcases fault_of_roll hanswer with ⟨_, hf⟩ | ⟨_, hf⟩ | hf
  · cases hf
  · cases hf
  · rw [hf] at hanswer
    have hnone := RollLog.nextReference_eq_none_iff.2 (roll_referencesExhausted_iff.1 hanswer).2
    exact RollLog.nextReference_ne_none hcandidates hlength hnone

theorem length_roll_le (h : t.log.entries.length ≤ t.log.capacity) :
    (t.roll now q).table.log.entries.length ≤ t.log.capacity := by
  cases hanswer : (t.roll now q).answer with
  | error f => rwa [(untouched_of_roll hanswer).1]
  | ok result =>
    rw [(newest_of_roll hanswer).1]
    exact RollLog.length_slide_le h _

end Table

namespace Bot

/-! ## Commands -/

/-- The body starts with the keyword in some ASCII case, and white space or nothing
follows. -/
def HasKeyword (keyword body : List Char) : Prop :=
  ∃ start rest, body = start ++ rest ∧ start.map Char.toLower = keyword ∧ Command.Apart rest

/-- The bodies that are commands: two words as they are, and two keywords. -/
def IsCommand (body : List Char) : Prop :=
  IsWord body ∨ HasKeyword "/roll".toList body ∨ HasKeyword "/reroll".toList body

theorem isCommand_iff {body : List Char} :
    IsCommand body ↔
      IsWord body ∨ Command.isRoll body = true ∨ Command.isReroll body = true := by
  have hroll : Command.rollKeyword = "/roll".toList := rfl
  have hreroll : Command.rerollKeyword = "/reroll".toList := rfl
  rw [Command.isRoll, Command.isReroll, Command.startsWith_iff, Command.startsWith_iff, hroll,
    hreroll]
  rfl

instance (body : List Char) : Decidable (IsCommand body) := decidable_of_iff' _ isCommand_iff

theorem route_of_not_isCommand {body : List Char} (h : ¬ IsCommand body) :
    Route.of? body = none := by
  rw [isCommand_iff, not_or, not_or] at h
  rw [route_of_not_isWord h.1, if_neg h.2.1, if_neg h.2.2]

/-! ## The usage line of rolls -/

/-- The reply to a roll command that cannot be read. -/
def usageLine (user : String) : String := user ++ ": " ++ rollUsage

theorem ne_usageLine_of_length {text user : String}
    (h : text.length < user.length + rollUsage.length) : text ≠ usageLine user := by
  rintro rfl
  rw [usageLine, String.length_append, String.length_append] at h
  omega

/-- After the same name, it is told apart by what follows. -/
theorem ne_usageLine {user text : String} (h : text ≠ rollUsage) :
    user ++ ": " ++ text ≠ usageLine user := by
  intro heq
  have htexts := congrArg String.toList heq
  simp only [usageLine, String.toList_append, List.append_assoc,
    List.append_cancel_left_eq] at htexts
  exact h (String.toList_inj.1 htexts)

theorem notFound_message_ne (r : Reference) : (RollFailure.notFound r).message ≠ rollUsage := by
  intro heq
  have hstart : (RollFailure.notFound r).message.toList.take 2 = ['n', 'o'] :=
    take_toList_append (by decide) _
  rw [heq] at hstart
  exact absurd hstart (by decide)

variable {σ : Type} [DieSource σ]

/-! ## The replies to the commands -/

/-- The body is answered, by a reply exactly if it is a command, and by the usage line
exactly if it is a roll command that cannot be read. -/
structure Answered (b : Bot σ) (user : String) (body : List Char) (now : Instant)
    (reply : Option String) : Prop where
  answer : (b.answer user body now).answer = .ok reply
  isSome : reply.isSome = true ↔ IsCommand body
  usage  : reply = some (usageLine user) ↔
    Command.isRoll body = true ∧ Command.roll? body = none

variable {b : Bot σ} {user : String} {body : List Char} {now : Instant} {k : Nat}

/-- A reply to a command that is no usage line. -/
theorem answered_of_ne {text : String} (hanswer : (b.answer user body now).answer = .ok (some text))
    (hcommand : IsCommand body) (htext : text ≠ usageLine user)
    (hread : Command.isRoll body = false ∨ Command.roll? body ≠ none) :
    b.Answered user body now (some text) where
  answer := hanswer
  isSome := iff_of_true rfl hcommand
  usage  := by
    refine iff_of_false (fun h => htext (Option.some.inj h)) ?_
    rintro ⟨hroll, hnone⟩
    rcases hread with hno | hsome
    · rw [hno] at hroll
      cases hroll
    · exact hsome hnone

theorem answered_word (h : IsWord body) : ∃ reply, b.Answered user body now reply := by
  have hcommand : IsCommand body := .inl h
  have hroll := (keyword_of_isWord h).1
  -- Both replies are shorter than the usage line.
  have hpong : "pong! ".length < rollUsage.length := by decide
  have hcredits : ChatDice.credits.length < rollUsage.length := by decide
  simp only [IsWord, List.mem_cons, List.not_mem_nil, or_false] at h
  rcases h with rfl | rfl
  · refine ⟨_, answered_of_ne rfl hcommand (ne_usageLine_of_length ?_) (.inl hroll)⟩
    rw [String.length_append]
    omega
  · refine ⟨_, answered_of_ne rfl hcommand (ne_usageLine_of_length ?_) (.inl hroll)⟩
    omega

omit [DieSource σ] in
/-- The answer to a roll is a reply if the roll does not halt the bot. -/
theorem exists_replyTo (b : Bot σ) (user verb : String) (q : Request)
    {answer : Except Fault (Outcome × Reference)}
    (hverb : verb.toList.head? = some ' ') (hroll : ∀ f, answer = .error f → f.IsOfRoll)
    (hhalted : ∀ h, answer ≠ .error (.halted h)) :
    ∃ text, b.replyTo user verb q answer = .ok (some text) ∧ text ≠ usageLine user := by
  have hne : b.replyTo user verb q answer ≠ .ok (some (user ++ ": " ++ rollUsage)) :=
    replyTo_ne hverb hroll fun hapart => hapart.1 (by decide)
  -- Results and failures are both replies; only a halt is none.
  match answer with
  | .ok (o, r)          => exact ⟨_, rfl, fun h => hne (by rw [replyTo, h, usageLine])⟩
  | .error (.failed f)  => exact ⟨_, rfl, fun h => hne (by rw [replyTo, h, usageLine])⟩
  | .error (.halted h)  => exact absurd rfl (hhalted h)

section Rolling

variable [UnendingSource σ] (hcandidates : RollLog.HasCandidates now.referenceStamp k)
  (hlength : b.table.log.entries.length ≤ k)

include hcandidates hlength

theorem answered_roll (h : Command.isRoll body = true) :
    ∃ reply, b.Answered user body now reply := by
  have hcommand : IsCommand body := isCommand_iff.2 (.inr (.inl h))
  have hanswer : (b.answer user body now).answer =
      (b.answerRoll user body now).answer.map some := by
    rw [answer, route_of_isRoll h]
  -- What cannot be read gets the usage line; any other roll a reply of its own.
  cases hread : Command.roll? body with
  | none =>
    refine ⟨some (usageLine user), ?_, iff_of_true rfl hcommand, iff_of_true rfl ⟨h, hread⟩⟩
    rw [hanswer, answerRoll, hread]
    rfl
  | some q =>
    obtain ⟨-, hreply⟩ := answerRoll_of_roll? (b := b) user now hread
    obtain ⟨text, htext, hne⟩ := exists_replyTo b user " rolled: " q (by decide)
      (fun f hf => (Table.not_recorded_of_roll hf).1)
      (Table.not_halted_of_roll hcandidates hlength)
    refine ⟨some text, answered_of_ne ?_ hcommand hne (.inr (by simp [hread]))⟩
    rw [hanswer, hreply, htext]

theorem answered_reroll (h : Command.isReroll body = true) :
    ∃ reply, b.Answered user body now reply := by
  have hcommand : IsCommand body := isCommand_iff.2 (.inr (.inr h))
  have hroll := Command.not_isRoll_of_isReroll h
  have hanswer : (b.answer user body now).answer =
      (b.answerReroll user body now).answer.map some := by
    rw [answer, route_of_isReroll h]
  cases hread : Command.reroll? body with
  | none =>
    -- The usage line of rerolls is another one.
    have hne : rerollUsage ≠ rollUsage := fun heq =>
      absurd (congrArg String.length heq) (by decide)
    refine ⟨some (user ++ ": " ++ rerollUsage),
      answered_of_ne ?_ hcommand (ne_usageLine hne) (.inl hroll)⟩
    rw [hanswer, answerReroll, hread]
    rfl
  | some token =>
    -- A reference that is not found gets a message of its own, any other is a roll.
    let r : Reference := ⟨String.ofList token⟩
    cases hfound : b.table.log.lookup? r with
    | none =>
      refine ⟨some (user ++ ": " ++ (RollFailure.notFound r).message),
        answered_of_ne ?_ hcommand (ne_usageLine (notFound_message_ne r)) (.inl hroll)⟩
      rw [hanswer, answerReroll, hread]
      dsimp only
      rw [Table.replay_of_not_found now hfound]
      rfl
    | some q =>
      obtain ⟨-, hreply, -⟩ := answerReroll_of_lookup? (b := b) user now hread hfound
      obtain ⟨text, htext, hne⟩ := exists_replyTo b user " rerolled: " q (by decide)
        (fun f hf => (Table.not_recorded_of_roll hf).1)
        (Table.not_halted_of_roll hcandidates hlength)
      refine ⟨some text, answered_of_ne ?_ hcommand hne (.inl hroll)⟩
      rw [hanswer, hreply, htext]

/-- Whatever the body, the bot goes on. -/
theorem exists_answered (user : String) (body : List Char) :
    ∃ reply, b.Answered user body now reply := by
  by_cases hcommand : IsCommand body
  · rcases isCommand_iff.1 hcommand with h | h | h
    · exact answered_word h
    · exact answered_roll hcandidates hlength h
    · exact answered_reroll hcandidates hlength h
  · -- What is no command is passed over.
    have hroll : ¬ Command.isRoll body = true := fun h =>
      hcommand (isCommand_iff.2 (.inr (.inl h)))
    refine ⟨none, ?_, iff_of_false nofun hcommand, iff_of_false nofun fun h => hroll h.1⟩
    rw [answer, route_of_not_isCommand hcommand]

end Rolling

/-! ## Messages -/

/-- No message makes the log outgrow its capacity. -/
theorem length_handle_le {m : Message} (h : b.table.log.entries.length ≤ b.table.log.capacity) :
    (b.handle m now).bot.table.log.entries.length ≤ b.table.log.capacity := by
  cases hrequest : b.request? m with
  | none => rwa [log_handle_of_none hrequest]
  | some q =>
    rw [(handle_of_request? now hrequest).1]
    exact Table.length_roll_le (t := b.tableFor m) h

end Bot

end ChatDice
