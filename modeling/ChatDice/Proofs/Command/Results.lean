import ChatDice.Command.Grammar

/-! # What grammars give

    What a grammar gives does not depend on what was read before, nor on misses:
    it is a function of the text that is left.  `Gives g f` says that this function
    is `f`; there is one lemma for each way to build a grammar.

    - `Gives.bind`, `Gives.optional`: grammars made of others.
    - `gives_word`, `gives_run1`: words and runs of characters.
    - `Gives.toOption_read`: reading a whole text.
-/

namespace ChatDice.Command.Grammar

variable {α β : Type}

/-- Wherever the grammar reads, it gives what `f` makes of the text that is left:
a value and the text after it. -/
def Gives (g : Grammar α) (f : List Char → Option (α × List Char)) : Prop :=
  ∀ c : Cursor, (g c).result.map (fun p => (p.1, p.2.rest)) = f c.rest

/-! ## Combining grammars -/

theorem gives_pure (a : α) : Gives (pure a) fun s => some (a, s) := fun _ => rfl

theorem Gives.bind {g : Grammar α} {h : α → Grammar β}
    {f : List Char → Option (α × List Char)} {k : α → List Char → Option (β × List Char)}
    (hg : Gives g f) (hh : ∀ a, Gives (h a) (k a)) :
    Gives (g >>= h) fun s => (f s).bind fun p => k p.1 p.2 := by
  intro c
  show (andThen g h c).result.map _ = (f c.rest).bind fun p => k p.1 p.2
  rw [← hg c]
  unfold andThen
  obtain ⟨result, misses⟩ := g c
  cases result with
  | none => rfl
  | some p => exact hh p.1 p.2

/-- What an optional part gives: itself, or nothing at the same place. -/
theorem Gives.optional {g : Grammar α} {f : List Char → Option (α × List Char)}
    (hg : Gives g f) :
    Gives (Grammar.optional g) fun s =>
      match f s with
      | some (a, rest) => some (some a, rest)
      | none           => some (none, s) := by
  intro c
  show (Grammar.optional g c).result.map _ = match f c.rest with
    | some (a, rest) => some (some a, rest)
    | none           => some (none, c.rest)
  rw [← hg c]
  unfold Grammar.optional
  obtain ⟨result, misses⟩ := g c
  -- If the part does not fit, the place is still the one before it.
  cases result with
  | none => rfl
  | some p => rfl

/-! ## Words -/

theorem gives_char (w : Char) :
    Gives (char w) fun s => if s.head? = some w then some ((), s.tail) else none := by
  intro c
  by_cases h : c.rest.head? = some w
  · simp [char, h, Cursor.advance]
  · simp [char, h]

/-- A word is taken off the start of the text. -/
theorem gives_word (ws : List Char) :
    Gives (word ws) fun s => if ws.isPrefixOf s then some ((), s.drop ws.length) else none := by
  induction ws with
  | nil => exact gives_pure ()
  | cons w ws ih =>
    intro c
    have hc := (gives_char w).bind (fun _ => ih) c
    rw [word]
    refine hc.trans ?_
    -- Reading the first character and then the others is reading the whole word.
    cases c.rest with
    | nil => rfl
    | cons d s =>
      by_cases hd : d = w
      · subst hd
        simp [List.isPrefixOf]
      · have hw : (w == d) = false := by simpa using Ne.symm hd
        simp [List.isPrefixOf, hd, hw]

theorem gives_endOfInput :
    Gives endOfInput fun s => if s.isEmpty then some ((), s) else none := by
  intro c
  by_cases h : c.rest.isEmpty = true
  · simp [endOfInput, h]
  · simp [endOfInput, h]

/-! ## Runs -/

theorem gives_run (p : Char → Bool) (bound : Option Nat) :
    Gives (run p bound) fun s => some (runOf p bound s, s.drop (runOf p bound s).length) :=
  fun _ => rfl

/-- A run of at least one character. -/
theorem gives_run1 (p : Char → Bool) (bound : Option Nat) :
    Gives (run1 p bound) fun s =>
      if runOf p bound s = [] then none
      else some (runOf p bound s, s.drop (runOf p bound s).length) := by
  intro c
  cases hrun : runOf p bound c.rest with
  | nil => simp [run1, run, hrun]
  | cons d ds => simp [run1, run, hrun, Cursor.advance]

/-! ## Whole texts -/

/-- A whole text is read if nothing is left of it. -/
theorem Gives.toOption_read {g : Grammar α} {f : List Char → Option (α × List Char)}
    (hg : Gives g f) (text : List Char) :
    (read g text).toOption = (f text).bind fun p => if p.2.isEmpty then some p.1 else none := by
  have hwhole := (hg.bind fun a => gives_endOfInput.bind fun _ => gives_pure a) (Cursor.start text)
  have hanswer : (read g text).toOption =
      (andThen g (fun a => andThen endOfInput fun _ => give a) (Cursor.start text)).result.map
        (·.1) := by
    unfold read
    -- Only the result counts here, not what was missed on the way.
    generalize andThen g (fun a => andThen endOfInput fun _ => give a) (Cursor.start text) = t
    obtain ⟨_ | p, misses⟩ := t
    · rfl
    · rfl
  have hvalue := congrArg (Option.map (·.1)) hwhole
  rw [Option.map_map] at hvalue
  refine hanswer.trans (hvalue.trans ?_)
  show Option.map _ ((f text).bind _) = _
  cases f text with
  | none => rfl
  | some p =>
    rw [Option.bind_some, Option.bind_some]
    split
    · rfl
    · rfl

end ChatDice.Command.Grammar
