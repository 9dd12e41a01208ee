import ChatDice.Proofs.Bot.Replay
import ChatDice.Proofs.Command.Routing

/-! # Messages that differ in letter case

    Two messages that are the same up to the case of ASCII letters leave the bot in
    the same state, whatever they say: rolls and rerolls are read without regard to
    case.  Their answers are the same too, unless one of them is exactly `/ping` or
    `/credits` and the other is not, since these two words are compared as they are.

    - `IsWord`: bodies that are exactly one of the two words.
    - `answer_of_isWord`, `answer_of_not_isWord`: what is answered to them, and to
      other spellings of them.
    - `handle_of_sameButCase`: any two messages.
-/

namespace ChatDice

/-- The same message up to the case of ASCII letters in its body. -/
structure Message.SameButCase (m m' : Message) : Prop where
  body      : Text.SameButCase m.body.toList m'.body.toList
  sender    : m.sender = m'.sender
  timestamp : m.timestamp = m'.timestamp

namespace Bot

/-! ## Two words that are compared as they are -/

/-- The body is exactly one of the commands without arguments. -/
def IsWord (body : List Char) : Prop := body ∈ ["/ping".toList, "/credits".toList]

instance (body : List Char) : Decidable (IsWord body) := inferInstanceAs (Decidable (_ ∈ _))

/-- The words start with neither keyword. -/
theorem keyword_of_isWord {body : List Char} (h : IsWord body) :
    Command.isRoll body = false ∧ Command.isReroll body = false := by
  have hwords : ∀ word ∈ ["/ping".toList, "/credits".toList],
      Command.isRoll word = false ∧ Command.isReroll word = false := by decide
  exact hwords body h

/-- The words differ in more than case. -/
theorem eq_of_isWord {body body' : List Char} (h : IsWord body) (h' : IsWord body')
    (hsame : Text.SameButCase body body') : body = body' := by
  have hwords : ∀ word ∈ ["/ping".toList, "/credits".toList],
      ∀ word' ∈ ["/ping".toList, "/credits".toList],
        Text.SameButCase word word' → word = word' := by decide
  exact hwords body h body' h' hsame

variable {σ : Type} [DieSource σ] {b : Bot σ} {user : String} {body body' : List Char}
  {now : Instant}

/-- A word changes nothing, and is answered. -/
theorem answer_of_isWord (b : Bot σ) (user : String) (now : Instant) (h : IsWord body) :
    ∃ text, b.answer user body now = ⟨.ok (some text), b, []⟩ := by
  simp only [IsWord, List.mem_cons, List.not_mem_nil, or_false] at h
  rcases h with rfl | rfl
  · exact ⟨_, rfl⟩
  · exact ⟨_, rfl⟩

/-- Other words are routed by their start. -/
theorem route_of_not_isWord (h : ¬ IsWord body) :
    Route.of? body =
      if Command.isRoll body then some .roll
      else if Command.isReroll body then some .reroll
      else none := by
  simp only [IsWord, List.mem_cons, List.not_mem_nil, or_false, not_or] at h
  rw [Route.of?, if_neg h.1, if_neg h.2]

/-- Another spelling of a word is no command at all. -/
theorem answer_of_not_isWord (hword : IsWord body) (hsame : Text.SameButCase body body')
    (h : ¬ IsWord body') : b.answer user body' now = ⟨.ok none, b, []⟩ := by
  have hroll : Command.isRoll body' = false := by
    rw [Command.isRoll, ← Command.startsWith_eq_of_sameButCase hsame]
    exact (keyword_of_isWord hword).1
  have hreroll : Command.isReroll body' = false := by
    rw [Command.isReroll, ← Command.startsWith_eq_of_sameButCase hsame]
    exact (keyword_of_isWord hword).2
  have hroute : Route.of? body' = none := by
    rw [route_of_not_isWord h, hroll, hreroll]
    rfl
  rw [answer, hroute]

/-! ## Any two bodies -/

theorem answerRoll_of_sameButCase (h : Text.SameButCase body body') :
    b.answerRoll user body now = b.answerRoll user body' now := by
  rw [answerRoll, answerRoll, Command.roll?_eq_of_sameButCase h]

theorem answerReroll_of_sameButCase (h : Text.SameButCase body body') :
    b.answerReroll user body now = b.answerReroll user body' now := by
  rw [answerReroll, answerReroll, Command.reroll?_eq_of_sameButCase h]

/-- Bodies that are no words are answered in the same way. -/
theorem answer_eq_of_not_isWord (b : Bot σ) (user : String) (now : Instant)
    (hsame : Text.SameButCase body body') (h : ¬ IsWord body) (h' : ¬ IsWord body') :
    (b.answer user body now).bot = (b.answer user body' now).bot ∧
      (b.answer user body now).answer = (b.answer user body' now).answer := by
  -- Only rolls and rerolls are left, and those keywords are compared in lower case.
  have hroute : Route.of? body = Route.of? body' := by
    rw [route_of_not_isWord h, route_of_not_isWord h', Command.isRoll, Command.isRoll,
      Command.isReroll, Command.isReroll, Command.startsWith_eq_of_sameButCase hsame,
      Command.startsWith_eq_of_sameButCase hsame]
  rw [answer, answer, hroute, answerRoll_of_sameButCase hsame, answerReroll_of_sameButCase hsame]
  split
  · exact ⟨rfl, rfl⟩
  · exact ⟨rfl, rfl⟩
  · exact ⟨rfl, rfl⟩
  · exact ⟨rfl, rfl⟩
  · exact ⟨rfl, rfl⟩

/-- Two spellings leave the same bot, and are answered in the same way unless only one
of them is a word. -/
theorem answer_of_sameButCase (hsame : Text.SameButCase body body') :
    (b.answer user body now).bot = (b.answer user body' now).bot ∧
      ((b.answer user body now).answer = (b.answer user body' now).answer ↔
        (IsWord body ↔ IsWord body')) := by
  by_cases h : IsWord body
  · obtain ⟨text, hanswer⟩ := answer_of_isWord b user now h
    by_cases h' : IsWord body'
    · rw [eq_of_isWord h h' hsame]
      simp
    · -- One spelling gets an answer that is a text, the other one gets none.
      rw [hanswer, answer_of_not_isWord h hsame h']
      simp [h, h']
  · by_cases h' : IsWord body'
    · obtain ⟨text, hanswer⟩ := answer_of_isWord b user now h'
      rw [hanswer, answer_of_not_isWord h' hsame.symm h]
      simp [h, h']
    · obtain ⟨hbot, hanswer⟩ := answer_eq_of_not_isWord b user now hsame h h'
      exact ⟨hbot, by simp [hanswer, h, h']⟩

/-- **Letter case does not matter, but for two words.**  Messages that are the same up
to the case of ASCII letters leave the same log, store and watermark.  Their answers
are the same as well, unless the bot answers them and exactly one of them is, without
the white space around it, `/ping` or `/credits` as it stands. -/
theorem handle_of_sameButCase {m m' : Message} (h : m.SameButCase m') (now : Instant) :
    (b.handle m now).bot = (b.handle m' now).bot ∧
      ((b.handle m now).answer = (b.handle m' now).answer ↔
        (b.watermark.isFresh m.timestamp = true →
          (IsWord (Text.trim m.body.toList) ↔ IsWord (Text.trim m'.body.toList)))) := by
  by_cases hfresh : b.watermark.isFresh m.timestamp = true
  · have hfresh' : b.watermark.isFresh m'.timestamp = true := h.timestamp ▸ hfresh
    obtain ⟨hanswer, hbot, -⟩ := handle_of_fresh now hfresh
    obtain ⟨hanswer', hbot', -⟩ := handle_of_fresh now hfresh'
    rw [hanswer, hbot, hanswer', hbot', ← h.timestamp, ← h.sender]
    simp only [hfresh, forall_const]
    exact answer_of_sameButCase h.body.trim
  · have hstale : ¬ b.watermark.isFresh m'.timestamp = true := h.timestamp ▸ hfresh
    rw [handle_of_stale now hfresh, handle_of_stale now hstale]
    exact ⟨rfl, by simp [hfresh]⟩

/-- A roll is the same in capitals; `/ping` is not, and the two answers differ. -/
theorem handle_of_sameButCase_capitals :
    (exampleBot.handle (said " /RoLl\t1D6KH " 5) ⟨0, 0⟩).bot.table.log.entries =
        (exampleBot.handle (said " /roll\t1d6kh " 5) ⟨0, 0⟩).bot.table.log.entries ∧
      (exampleBot.handle (said " /RoLl\t1D6KH " 5) ⟨0, 0⟩).answer =
        (exampleBot.handle (said " /roll\t1d6kh " 5) ⟨0, 0⟩).answer ∧
      (exampleBot.handle (said "/ping" 5) ⟨0, 0⟩).answer ≠
        (exampleBot.handle (said "/PING" 5) ⟨0, 0⟩).answer := by
  have hroll : (said " /RoLl\t1D6KH " 5).SameButCase (said " /roll\t1d6kh " 5) :=
    ⟨by decide +kernel, rfl, rfl⟩
  have hping : (said "/ping" 5).SameButCase (said "/PING" 5) := ⟨by decide +kernel, rfl, rfl⟩
  obtain ⟨hbot, hanswer⟩ := handle_of_sameButCase (b := exampleBot) hroll ⟨0, 0⟩
  refine ⟨by rw [hbot], hanswer.2 fun _ => by decide +kernel, ?_⟩
  intro heq
  have hword := (handle_of_sameButCase (b := exampleBot) hping ⟨0, 0⟩).2.1 heq rfl
  revert hword
  decide +kernel

/-- So letter case does matter for the answer to `/PING`. -/
theorem handle_of_sameButCase_not_same :
    ¬ ∀ (b : Bot Source) (m m' : Message) (now : Instant), m.SameButCase m' →
      (b.handle m now).answer = (b.handle m' now).answer := by
  intro same
  have hsame := same exampleBot (said "/ping" 5) (said "/PING" 5) ⟨0, 0⟩
    ⟨by decide +kernel, rfl, rfl⟩
  have hanswer : (exampleBot.handle (said "/ping" 5) ⟨0, 0⟩).answer =
      .ok (some "pong! alice") := by decide +kernel
  have hanswer' : (exampleBot.handle (said "/PING" 5) ⟨0, 0⟩).answer = .ok none := by
    decide +kernel
  rw [hanswer, hanswer'] at hsame
  cases hsame

end Bot

end ChatDice
