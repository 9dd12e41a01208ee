import ChatDice.Command.Read

/-! # Refused texts have a miss to report

    A grammar that gives nothing has missed something on the way, and of all misses
    one got furthest.  So a roll command that cannot be read always has exactly one
    error, and one that can be read has none.

    - `Noted`: a grammar that never fails without a miss; one lemma for each way to
      build a grammar.
    - `furthest_eq_none_iff`: there is a furthest miss as soon as there is any.
    - `rollErrors_of_none`, `rollErrors_of_some`: the errors of a roll command.
-/

namespace ChatDice.Command

/-! ## The furthest miss -/

theorem merge_ne_none (best : Option Miss) (m : Miss) : Miss.merge best m ≠ none := by
  unfold Miss.merge
  split
  · simp
  · split
    · simp
    · split
      · simp
      · simp

theorem furthest_eq_none_iff {misses : List Miss} : furthest misses = none ↔ misses = [] := by
  -- From the first miss on, there is always one that got furthest.
  have hkept : ∀ (misses : List Miss) (best : Option Miss), best ≠ none →
      misses.foldl Miss.merge best ≠ none := by
    intro misses
    induction misses with
    | nil => exact fun best hbest => hbest
    | cons m misses ih => exact fun best _ => ih _ (merge_ne_none best m)
  cases misses with
  | nil => exact iff_of_true rfl rfl
  | cons m misses =>
    exact iff_of_false (hkept misses _ (merge_ne_none none m)) (List.cons_ne_nil m misses)

namespace Grammar

variable {α β : Type}

/-! ## Grammars that note what they miss -/

/-- Where the grammar gives nothing, something was missed. -/
def Noted (g : Grammar α) : Prop := ∀ c : Cursor, (g c).result = none → (g c).misses ≠ []

theorem noted_pure (a : α) : Noted (pure a) := by
  intro c h
  cases h

theorem noted_optional (g : Grammar α) : Noted (optional g) := by
  intro c h
  unfold optional at h
  split at h
  · cases h
  · cases h

/-- Either part may fail; the misses of the first part are kept. -/
theorem Noted.bind {g : Grammar α} {f : α → Grammar β} (hg : Noted g) (hf : ∀ a, Noted (f a)) :
    Noted (g >>= f) := by
  intro c
  show (andThen g f c).result = none → (andThen g f c).misses ≠ []
  have hfirst := hg c
  unfold andThen
  split
  · next misses heq =>
    rw [heq] at hfirst
    intro _
    exact hfirst rfl
  · intro h
    exact List.append_ne_nil_of_right_ne_nil _ (hf _ _ h)

/-- If both alternatives fail, the first one is enough. -/
theorem Noted.orElse {g : Grammar α} (hg : Noted g) (h : Grammar α) : Noted (orElse g h) := by
  intro c
  have hfirst := hg c
  unfold Grammar.orElse
  split
  · nofun
  · next misses heq =>
    rw [heq] at hfirst
    intro _
    exact List.append_ne_nil_of_left_ne_nil (hfirst rfl) _

theorem noted_char (w : Char) : Noted (char w) := by
  intro c h
  unfold char at h ⊢
  split at h
  · cases h
  · next hmissed =>
    rw [if_neg hmissed]
    simp

theorem noted_word (ws : List Char) : Noted (word ws) := by
  induction ws with
  | nil => exact noted_pure ()
  | cons w ws ih => exact (noted_char w).bind fun _ => ih

theorem noted_endOfInput : Noted endOfInput := by
  intro c h
  unfold endOfInput at h ⊢
  split at h
  · cases h
  · next hmore =>
    rw [if_neg hmore]
    simp

/-- A run that may have a character and has none ended at a miss. -/
theorem noted_run1 (p : Char → Bool) {bound : Option Nat} (hbound : bound ≠ some 0) :
    Noted (run1 p bound) := by
  intro c
  unfold run1
  cases hrun : runOf p bound c.rest with
  | nil => simp [run, hrun, hbound]
  | cons d ds => simp [run, hrun]

/-- A text that is refused has exactly one error. -/
theorem read_of_noted {g : Grammar α} (hg : Noted g) (text : List Char) :
    (∃ a, g.read text = .ok a) ∨ ∃ m, g.read text = .error [m] := by
  have hwhole : Noted (andThen g fun a => andThen endOfInput fun _ => give a) :=
    hg.bind fun a => noted_endOfInput.bind fun _ => noted_pure a
  have hmissed := hwhole (Cursor.start text)
  unfold read
  -- Of the whole grammar only this is used: without a result it has a miss.
  generalize andThen g (fun a => andThen endOfInput fun _ => give a) (Cursor.start text) = t
    at hmissed ⊢
  obtain ⟨result, misses⟩ := t
  cases result with
  | some p => exact .inl ⟨p.1, rfl⟩
  | none =>
    obtain ⟨m, hm⟩ := Option.ne_none_iff_exists'.1 (mt furthest_eq_none_iff.1 (hmissed rfl))
    dsimp only
    rw [hm]
    exact .inr ⟨m, rfl⟩

end Grammar

open Grammar

/-! ## Commands -/

theorem noted_number : Noted number :=
  (noted_run1 _ (by decide)).bind fun _ => noted_pure _

theorem noted_blanks : Noted blanks := noted_run1 _ (by decide)

theorem noted_rollSpec : Noted rollSpec :=
  noted_number.bind fun _ => (noted_char 'd').bind fun _ => noted_number.bind fun _ =>
    (noted_optional modifier).bind fun _ => (noted_optional suffix).bind fun _ => noted_pure _

theorem noted_rollCommand : Noted rollCommand :=
  (noted_word rollKeyword).bind fun _ => noted_blanks.bind fun _ => noted_rollSpec.bind fun _ =>
    (noted_endOfInput.orElse blanksAndMore).bind fun _ => noted_pure _

theorem noted_rerollCommand : Noted rerollCommand :=
  (noted_word rerollKeyword).bind fun _ => noted_blanks.bind fun _ =>
    (noted_run1 _ (by decide)).bind fun _ => (noted_optional blanks).bind fun _ =>
      noted_endOfInput.bind fun _ => noted_pure _

/-- A roll command that cannot be read has one error. -/
theorem rollErrors_of_none {text : List Char} (h : roll? text = none) :
    ∃ m, rollErrors text = [m] := by
  rcases read_of_noted noted_rollCommand (Text.lowercase text) with ⟨q, hread⟩ | ⟨m, hread⟩
  · rw [roll?, hread] at h
    cases h
  · rw [rollErrors, hread]
    exact ⟨m, rfl⟩

theorem rollErrors_of_some {text : List Char} {q : Request} (h : roll? text = some q) :
    rollErrors text = [] := by
  unfold rollErrors
  unfold roll? at h
  cases hread : rollCommand.read (Text.lowercase text) with
  | ok _ => rfl
  | error e =>
    rw [hread] at h
    cases h

end ChatDice.Command
