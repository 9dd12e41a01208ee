import ChatDice.Text.Basic

/-! # Runs of characters and trimming

    A run of characters of one class ends where a character of another class, or
    nothing, follows.  Trimming takes away exactly the white space around a text
    that neither starts nor ends with some.

    - `takeWhile_run`, `dropWhile_run`: a run and what follows it.
    - `run_unique`: a text starts with one run of a class only.
    - `forall_head?_append`: a text starts like its first part.
    - `trim_blanks`: white space around a text is trimmed away.
-/

namespace ChatDice.Text

/-! ## Runs -/

variable {p : Char → Bool} {s rest : List Char}

/-- A run ends where no character of its class follows. -/
theorem takeWhile_run (hs : ∀ c ∈ s, p c = true) (hrest : ∀ c ∈ rest.head?, p c = false) :
    (s ++ rest).takeWhile p = s := by
  rw [List.takeWhile_append_of_pos hs]
  cases rest with
  | nil => simp
  | cons c cs => simp [hrest c rfl]

theorem dropWhile_run (hs : ∀ c ∈ s, p c = true) (hrest : ∀ c ∈ rest.head?, p c = false) :
    (s ++ rest).dropWhile p = rest := by
  rw [List.dropWhile_append_of_pos hs]
  cases rest with
  | nil => rfl
  | cons c cs => simp [hrest c rfl]

/-- A text can be cut in one way only where a run of a class ends. -/
theorem run_unique {s' rest' : List Char} (h : s ++ rest = s' ++ rest')
    (hs : ∀ c ∈ s, p c = true) (hs' : ∀ c ∈ s', p c = true)
    (hrest : ∀ c ∈ rest.head?, p c = false) (hrest' : ∀ c ∈ rest'.head?, p c = false) :
    s = s' ∧ rest = rest' := by
  have hrun := takeWhile_run hs hrest
  have hafter := dropWhile_run hs hrest
  rw [h, takeWhile_run hs' hrest'] at hrun
  rw [h, dropWhile_run hs' hrest'] at hafter
  exact ⟨hrun.symm, hafter.symm⟩

/-! ## First characters -/

/-- What holds of all characters of a part that is not empty holds of the first one. -/
theorem forall_head?_append {P : Char → Prop} (hne : s ≠ []) (hs : ∀ c ∈ s, P c)
    (rest : List Char) : ∀ c ∈ (s ++ rest).head?, P c := by
  intro c hc
  obtain ⟨d, ds, rfl⟩ := List.exists_cons_of_ne_nil hne
  obtain rfl : d = c := Option.some.inj hc
  exact hs d List.mem_cons_self

theorem forall_head?_cons {P : Char → Prop} {c : Char} (h : P c) (rest : List Char) :
    ∀ d ∈ (c :: rest).head?, P d := by
  intro d hd
  obtain rfl : c = d := Option.some.inj hd
  exact h

/-! ## Trimming -/

theorem trimStart_blanks {before : List Char} (hbefore : ∀ c ∈ before, isBlank c = true)
    (hs : ∀ c ∈ s.head?, isBlank c = false) : trimStart (before ++ s) = s :=
  dropWhile_run hbefore hs

theorem trimEnd_blanks {after : List Char} (hafter : ∀ c ∈ after, isBlank c = true)
    (hs : ∀ c ∈ s.getLast?, isBlank c = false) : trimEnd (s ++ after) = s := by
  rw [trimEnd, List.reverse_append, dropWhile_run, List.reverse_reverse]
  · intro c hc
    exact hafter c (List.mem_reverse.1 hc)
  · intro c hc
    rw [List.head?_reverse] at hc
    exact hs c hc

/-- White space around a text is trimmed away, if the text has none at its ends. -/
theorem trim_blanks {before after : List Char} (hbefore : ∀ c ∈ before, isBlank c = true)
    (hafter : ∀ c ∈ after, isBlank c = true) (hne : s ≠ [])
    (hfirst : ∀ c ∈ s.head?, isBlank c = false) (hlast : ∀ c ∈ s.getLast?, isBlank c = false) :
    trim (before ++ s ++ after) = s := by
  have hstart : trimStart (before ++ (s ++ after)) = s ++ after := by
    obtain ⟨c, cs, rfl⟩ := List.exists_cons_of_ne_nil hne
    exact trimStart_blanks hbefore hfirst
  rw [trim, List.append_assoc, hstart, trimEnd_blanks hafter hlast]

end ChatDice.Text
