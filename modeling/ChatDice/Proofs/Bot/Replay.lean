import ChatDice.Proofs.Bot.Handling
import ChatDice.Proofs.Command.Reroll
import ChatDice.Proofs.Text.Decimal

/-! # References that were shown can be rerolled

    Once a reply has shown a reference, the reference can be rerolled until as
    many entries were logged as the log keeps, whatever else is said to the bot
    and however often its log cannot be saved.

    - `startsApart_of_isOfRoll`: a failed roll does not read like a failed lookup.
    - `Run`: bots that come after one, by the number of entries logged since.
    - `held_of_run`: an entry that was new at the start is held at the end.
    - `rerolled_of_run`: a reroll command for its reference rolls its request.
-/

namespace ChatDice

/-! ## References in commands -/

/-- The reference of a roll can be typed. -/
theorem isToken_of_isHex {r : Reference} (h : r.IsHex) : Command.IsToken r.token.toList := by
  have hdigits : "0123456789abcdef".toList.all Char.isAlphanum = true := by decide
  refine ⟨?_, fun c hc => List.all_eq_true.1 hdigits c (h.2 c hc)⟩
  intro hnil
  have hlength := h.1
  rw [hnil] at hlength
  cases hlength

/-- A typed reroll command is routed as one. -/
theorem route_of_isBareReroll {body token : List Char} (h : Command.IsBareReroll body token) :
    Route.of? body = some .reroll :=
  Bot.route_of_isReroll (Command.isReroll_of_isBareReroll h)

/-! ## Replies told apart -/

/-- What comes after two characters does not change them. -/
theorem take_toList_append {s : String} {c d : Char} (h : s.toList.take 2 = [c, d]) (t : String) :
    (s ++ t).toList.take 2 = [c, d] := by
  have hlength : 2 ≤ s.toList.length := by
    have := congrArg List.length h
    rw [List.length_take] at this
    simp only [List.length_cons, List.length_nil] at this
    omega
  rw [String.toList_append, List.take_append_of_le_length hlength, h]

/-- A text that starts like neither the usage line nor the text of a failed lookup. -/
def StartsApart (text : String) : Prop :=
  text.toList.take 2 ≠ ['u', 's'] ∧ text.toList.take 2 ≠ ['n', 'o']

theorem startsApart_of_take {text : String} {c d : Char} (h : text.toList.take 2 = [c, d])
    (hcd : [c, d] ≠ ['u', 's'] ∧ [c, d] ≠ ['n', 'o']) : StartsApart text := by
  rwa [StartsApart, h]

/-- The text of a request starts with the number of dice. -/
theorem startsApart_of_request (q : Request) (t : String) : StartsApart (q.text ++ t) := by
  obtain ⟨d, ds, hdigits⟩ := List.exists_cons_of_ne_nil (Decimal.digits_ne_nil q.count.toNat)
  have hd : d.isDigit = true :=
    Decimal.isDigit_of_mem_digits (n := q.count.toNat) (by rw [hdigits]; exact List.mem_cons_self)
  obtain ⟨rest, hrest⟩ : ∃ rest, q.text.toList = d :: rest := by
    rw [Request.text, String.toList_ofList, Request.written, hdigits]
    exact ⟨_, rfl⟩
  rw [StartsApart, String.toList_append, hrest]
  -- Both texts start with a letter, and the display form with a digit.
  constructor
  · intro h
    obtain ⟨rfl, -⟩ := List.cons.inj h
    exact absurd hd (by decide)
  · intro h
    obtain ⟨rfl, -⟩ := List.cons.inj h
    exact absurd hd (by decide)

theorem startsApart_diceError (e : DiceError) : StartsApart e.message := by
  -- The first two letters are enough, but for the message that starts with a request.
  cases e with
  | invalidSides n =>
    have start : (DiceError.invalidSides n).message.toList.take 2 = ['d', 'i'] :=
      take_toList_append (by decide) _
    exact startsApart_of_take start (by decide)
  | emptyRoll k =>
    have start : (DiceError.emptyRoll k).message.toList.take 2 = ['a', ' '] :=
      take_toList_append (take_toList_append (by decide) _) _
    exact startsApart_of_take start (by decide)
  | infiniteRolls q => exact startsApart_of_request q _
  | tooManyRolls n =>
    have start : (DiceError.tooManyRolls n).message.toList.take 2 = ['r', 'o'] :=
      take_toList_append (take_toList_append (by decide) _) _
    exact startsApart_of_take start (by decide)
  | unknownKind s =>
    have start : (DiceError.unknownKind s).message.toList.take 2 = ['u', 'n'] :=
      take_toList_append (by decide) _
    exact startsApart_of_take start (by decide)

/-- The text of every failure of a roll itself is told apart from both. -/
theorem startsApart_of_isOfRoll {f : RollFailure} (h : f.IsOfRoll) : StartsApart f.message := by
  cases f with
  | dice e => exact startsApart_diceError e
  | notFound r => exact absurd h id
  | storage e =>
    have start : (RollFailure.storage e).message.toList.take 2 = ['u', 'n'] :=
      take_toList_append (take_toList_append (take_toList_append (by decide) _) _) _
    exact startsApart_of_take start (by decide)

namespace Bot

variable {σ : Type}

/-- The reply to a roll, with a verb after a space, is not one that starts like these
two. -/
theorem replyTo_ne {b : Bot σ} {user verb : String} {q : Request}
    {answer : Except Fault (Outcome × Reference)} (hverb : verb.toList.head? = some ' ')
    (h : ∀ f, answer = .error f → f.IsOfRoll) {text : String} (htext : ¬ StartsApart text) :
    b.replyTo user verb q answer ≠ .ok (some (user ++ ": " ++ text)) := by
  intro heq
  match answer with
  | .ok (o, r) =>
    -- After the name comes a space on one side, and a colon on the other.
    have htexts := congrArg String.toList (Option.some.inj (Except.ok.inj heq))
    obtain ⟨rest, hrest⟩ := List.head?_eq_some_iff.1 hverb
    simp [hrest] at htexts
  | .error (.failed f) =>
    have htexts := congrArg String.toList (Option.some.inj (Except.ok.inj heq))
    simp only [String.toList_append, List.append_assoc, List.append_cancel_left_eq] at htexts
    have hapart := startsApart_of_isOfRoll (h _ rfl)
    rw [StartsApart, htexts] at hapart
    exact htext hapart
  | .error (.halted f) => cases heq

variable [DieSource σ]

/-! ## Rerolling -/

/-- A fresh reroll command for a reference that is found is answered by a roll of
the request that is found, and says so. -/
theorem handle_of_isRerollOf {b : Bot σ} {m : Message} (now : Instant) {q : Request}
    {r : Reference} (hfresh : b.watermark.isFresh m.timestamp = true)
    (hbody : Command.IsRerollOf m.body.toList r.token.toList)
    (htoken : Command.IsToken r.token.toList) (hfound : b.table.log.lookup? r = some q) :
    (b.handle m now).bot.table = ((b.tableFor m).roll now q).table ∧
      (b.handle m now).answer = b.replyTo (displayName m.sender) " rerolled: " q
        ((b.tableFor m).roll now q).answer ∧
      Notice.rerolling r q ∈ (b.handle m now).notices := by
  -- The body is a reroll command, and its token is read in lower case.
  have hbare := Command.isBareReroll_trim hbody htoken
  have hread := Command.reroll?_of_isBareReroll hbare htoken
  have hlookup : b.table.log.lookup? ⟨String.ofList r.token.toList⟩ = some q := by
    rwa [String.ofList_toList]
  obtain ⟨hanswer, hbot, hnotices⟩ := handle_of_fresh now hfresh
  obtain ⟨htable, hreply, hnotice⟩ := answerReroll_of_lookup? (b := (b.advance m.timestamp).1)
    (displayName m.sender) now hread hlookup
  rw [String.ofList_toList] at hnotice
  rw [hanswer, hbot]
  refine ⟨?_, ?_, hnotices _ ?_⟩
  · rw [answer, route_of_isBareReroll hbare]
    exact htable
  · rw [answer, route_of_isBareReroll hbare]
    exact hreply
  · rw [answer, route_of_isBareReroll hbare]
    exact List.mem_cons_of_mem _ hnotice

/-! ## Runs -/

/-- Bots that come after `b₀` when messages are handled, by the number of entries
that were logged.  Between messages the vault may change in any way: this decides
which saves succeed. -/
inductive Run (b₀ : Bot σ) : Nat → Bot σ → Prop
  | start : Run b₀ 0 b₀
  | vault {n : Nat} {b : Bot σ} (run : Run b₀ n b) (v : Vault) :
      Run b₀ n { b with table := { b.table with store := v } }
  | message {n : Nat} {b : Bot σ} (run : Run b₀ n b) (m : Message) (now : Instant) :
      Run b₀ (n + b.logCount m now) (b.handle m now).bot

theorem capacity_of_run {b₀ b : Bot σ} {n : Nat} (run : Run b₀ n b) :
    b.table.log.capacity = b₀.table.log.capacity := by
  induction run with
  | start => rfl
  | vault _ _ ih => exact ih
  | message _ m now ih => rw [capacity_handle, ih]

/-- An entry without newer ones is held until the log has no more room for others. -/
theorem held_of_run {b₀ b : Bot σ} {n : Nat} {q : Request} {r : Reference} (run : Run b₀ n b)
    (hheld : b₀.table.log.Held r q 0) (hn : n < b₀.table.log.capacity) :
    b.table.log.Held r q n := by
  induction run with
  | start => exact hheld
  | vault _ _ ih => exact ih hn
  | message run m now ih =>
    -- The count only grows, so there was room before the message, too.
    refine held_handle (ih (by omega)) ?_
    rwa [capacity_of_run run]

/-- **A reference that was shown can be rerolled for a full window.**  A message for
which something was logged is answered with its reference.  After any run in which
fewer entries were logged than the log keeps, a fresh reroll command for the
reference rolls the same request: the table is as that roll leaves it, the reply
is the reply to that roll, and it is neither the usage line nor the text of a
failed lookup. -/
theorem rerolled_of_run {b b' : Bot σ} {m m' : Message} {now : Instant} (now' : Instant)
    {q : Request} {o : Outcome} {r : Reference} {n : Nat} (hlogged : b.logged? m now = some (q, o, r))
    (run : Run (b.handle m now).bot n b') (hn : n < b.table.log.capacity)
    (hfresh : b'.watermark.isFresh m'.timestamp = true)
    (hbody : Command.IsRerollOf m'.body.toList r.token.toList) :
    (∃ shown, (b.handle m now).answer = .ok (some (shown ++ " (ref " ++ r.token ++ ")"))) ∧
      (b'.handle m' now').bot.table = ((b'.tableFor m').roll now' q).table ∧
      (b'.handle m' now').answer = b'.replyTo (displayName m'.sender) " rerolled: " q
        ((b'.tableFor m').roll now' q).answer ∧
      Notice.rerolling r q ∈ (b'.handle m' now').notices ∧
      (b'.handle m' now').answer ≠
        .ok (some (displayName m'.sender ++ ": " ++ rerollUsage)) ∧
      ∀ r', (b'.handle m' now').answer ≠
        .ok (some (displayName m'.sender ++ ": " ++ (RollFailure.notFound r').message)) := by
  -- A reference that was handed out is 32 hexadecimal digits, which is a token.
  have htoken : Command.IsToken r.token.toList :=
    isToken_of_isHex (Table.isHex_of_roll (logged?_eq_some hlogged).2)
  have hheld := held_of_run run (held_of_logged? hlogged) (by rwa [capacity_handle])
  obtain ⟨htable, hreply, hnotice⟩ :=
    handle_of_isRerollOf now' hfresh hbody htoken (RollLog.lookup?_of_held hheld)
  -- A roll fails by itself, so its failure is not that of a lookup.
  have hof (f : Fault) (hf : ((b'.tableFor m').roll now' q).answer = .error f) : f.IsOfRoll :=
    (Table.not_recorded_of_roll hf).1
  refine ⟨answer_of_logged? hlogged, htable, hreply, hnotice, ?_, fun r' => ?_⟩
  · rw [hreply]
    exact replyTo_ne (by decide) hof fun hapart => hapart.1 (by decide)
  · rw [hreply]
    exact replyTo_ne (by decide) hof fun hapart => hapart.2 (take_toList_append (by decide) _)

/-- A bot with an empty log of two entries, whose dice all show a three. -/
def exampleBot : Bot Source where
  table     :=
    { source := .constant 3, log := ⟨[], 2, 0, by decide⟩
      store := ⟨.empty, .shelf (.ofEntries [] false)⟩, rollLimit := 100 }
  watermark := .inMemory
  listLimit := 10

/-- A message of one and the same sender. -/
def said (body : String) (seconds : Int) : Message := ⟨body, "@alice:example.org", ⟨seconds, 0⟩⟩

/-- Vaults that refuse to save, and that do not. -/
def shelved (refuses : Bool) : Vault := ⟨.empty, .shelf (.ofEntries [] refuses)⟩

/-- After its first roll the bot cannot save a second one, then logs a third, and
still rerolls the first, whose reference is typed in capitals. -/
theorem rerolled_of_run_third_roll :
    ∃ b, Run (exampleBot.handle (said "/roll 1d6" 1) ⟨5, 0⟩).bot 1 b ∧
      b.table.log.entries.length = 2 ∧
      .rerolling ⟨"2699ce625ee99ea385797e81cb9357e5"⟩ (.plain 1 6) ∈
        (b.handle (said " /ReRoll\t2699CE625EE99EA385797E81CB9357E5\n" 4) ⟨5, 0⟩).notices := by
  have hlogged : exampleBot.logged? (said "/roll 1d6" 1) ⟨5, 0⟩ =
      some (.plain 1 6, .ofFaces [3] 0, ⟨"2699ce625ee99ea385797e81cb9357e5"⟩) := by
    decide +kernel
  have hfirst : Run (exampleBot.handle (said "/roll 1d6" 1) ⟨5, 0⟩).bot 0
      (exampleBot.handle (said "/roll 1d6" 1) ⟨5, 0⟩).bot := .start
  have hsecond := (hfirst.vault (shelved true)).message (said "/roll 2d4" 2) ⟨5, 0⟩
  have hthird := (hsecond.vault (shelved false)).message (said "/roll 2d8" 3) ⟨5, 0⟩
  -- Of the two messages the vault took only the second.
  rw [show 0 + _ + _ = 1 by decide +kernel] at hthird
  have hbody : Command.IsRerollOf
      (said " /ReRoll\t2699CE625EE99EA385797E81CB9357E5\n" 4).body.toList
      (Reference.mk "2699ce625ee99ea385797e81cb9357e5").token.toList :=
    ⟨[' '], _, ['\n'], by decide +kernel,
      ⟨"/ReRoll".toList, ['\t'], "2699CE625EE99EA385797E81CB9357E5".toList, rfl, by decide +kernel,
        by decide +kernel, by simp, List.forall_mem_singleton.2 rfl⟩,
      List.forall_mem_singleton.2 rfl, List.forall_mem_singleton.2 rfl⟩
  refine ⟨_, hthird, by decide +kernel, ?_⟩
  exact (rerolled_of_run ⟨5, 0⟩ hlogged hthird (by decide) (by decide +kernel) hbody).2.2.2.1

end Bot

end ChatDice
