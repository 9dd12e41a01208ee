import ChatDice.Proofs.Command.Acceptance
import ChatDice.Proofs.Text.Lowercase

/-! # Commands that can be read are meant as such

    A message is routed by its first word, and read in lower case only then.  The two
    agree: what can be read as a roll or a reroll starts with that keyword in some
    ASCII case, since no other character has one of its letters, or white space, as
    its lower-case form.

    - `startsWith_iff`: texts that start with a keyword.
    - `isRoll_of_spelled`, `isReroll_of_spelled`: texts that can be read.
    - `startsWith_eq_of_sameButCase`, `roll?_eq_of_sameButCase`: neither depends on
      the case of ASCII letters.
-/

namespace ChatDice.Command

/-! ## First words -/

/-- A text starts with a keyword if its start is the keyword up to ASCII case, and
white space or nothing follows. -/
theorem startsWith_iff {keyword text : List Char} :
    startsWith keyword text = true ↔
      ∃ start rest, text = start ++ rest ∧ start.map Char.toLower = keyword ∧ Apart rest := by
  rw [startsWith, Bool.and_eq_true, beq_iff_eq]
  constructor
  · intro h
    obtain ⟨hstart, hrest⟩ := h
    -- The text is cut behind as many characters as the keyword has.
    refine ⟨_, _, (List.take_append_drop keyword.length text).symm, hstart, ?_⟩
    intro c hc
    rw [hc] at hrest
    exact hrest
  · intro h
    obtain ⟨start, rest, rfl, rfl, hrest⟩ := h
    rw [List.length_map, List.take_left, List.drop_left]
    refine ⟨rfl, ?_⟩
    cases hhead : rest.head? with
    | none => rfl
    | some c => exact hrest c hhead

/-- No text starts with both keywords: they differ in the fourth letter. -/
theorem not_isRoll_of_isReroll {text : List Char} (h : isReroll text = true) :
    isRoll text = false := by
  obtain ⟨start, rest, rfl, hstart, -⟩ := startsWith_iff.1 h
  rw [← Bool.not_eq_true]
  intro hroll
  obtain ⟨start', rest', htext, hstart', -⟩ := startsWith_iff.1 hroll
  have hkeywords : (rerollKeyword ++ rest.map Char.toLower).take 5 =
      (rollKeyword ++ rest'.map Char.toLower).take 5 := by
    rw [← hstart, ← hstart', ← List.map_append, ← List.map_append, htext]
  exact absurd hkeywords (by simp [rollKeyword, rerollKeyword])

/-- A text whose lower-case form is a keyword, white space and anything starts with
the keyword. -/
theorem startsWith_of_lowercase {keyword blanks tail text : List Char}
    (hkeyword : ∀ d ∈ keyword, Text.IsSteady d) (hne : blanks ≠ [])
    (hblanks : ∀ d ∈ blanks, Text.isBlank d = true)
    (h : Text.lowercase text = keyword ++ (blanks ++ tail)) : startsWith keyword text = true := by
  obtain ⟨start, rest, rfl, hstart, hrest⟩ := Text.lowercaseAfter_append_inv hkeyword h
  refine startsWith_iff.2 ⟨start, rest, rfl, hstart, ?_⟩
  obtain ⟨d, ds, rfl⟩ := List.exists_cons_of_ne_nil hne
  have hd := hblanks d List.mem_cons_self
  -- What follows the keyword is white space in any case.
  obtain ⟨c, cs, rfl, hc, -⟩ := Text.lowercaseAfter_cons_inv (.inl hd) hrest
  apply Text.forall_head?_cons
  rwa [← Text.isBlank_toLower, hc]

/-! ## Texts that can be read -/

theorem isRoll_of_spelled {text : List Char} (t : RollText) (h : Text.lowercase text = t.chars) :
    isRoll text = true := by
  have hsteady : ∀ d ∈ rollKeyword, Text.IsSteady d := by simp [rollKeyword, Text.IsSteady]
  exact startsWith_of_lowercase hsteady t.ne_nil t.isBlank h

theorem isReroll_of_spelled {text : List Char} (t : RerollText)
    (h : Text.lowercase text = t.chars) : isReroll text = true := by
  have hsteady : ∀ d ∈ rerollKeyword, Text.IsSteady d := by simp [rerollKeyword, Text.IsSteady]
  exact startsWith_of_lowercase hsteady t.ne_nil t.isBlank h

/-! ## Texts that are the same up to ASCII case -/

variable {s t : List Char}

theorem startsWith_of_sameButCase (h : Text.SameButCase s t) {keyword : List Char}
    (hs : startsWith keyword s = true) : startsWith keyword t = true := by
  obtain ⟨start, rest, rfl, hstart, hrest⟩ := startsWith_iff.1 hs
  have hmap : t.map Char.toLower = keyword ++ rest.map Char.toLower := by
    rw [← h, List.map_append, hstart]
  obtain ⟨start', rest', rfl, hstart', hrest'⟩ := List.map_eq_append_iff.1 hmap
  refine startsWith_iff.2 ⟨start', rest', rfl, hstart', ?_⟩
  intro c hc
  -- The character after the keyword is the same in lower case.
  have hhead : (rest.map Char.toLower).head? = some c.toLower := by
    rw [← hrest', List.head?_map, hc]
    rfl
  rw [List.head?_map] at hhead
  obtain ⟨d, hd, hdc⟩ := Option.map_eq_some_iff.1 hhead
  have hblank := hrest d hd
  rwa [← Text.isBlank_toLower, hdc, Text.isBlank_toLower] at hblank

theorem startsWith_eq_of_sameButCase (h : Text.SameButCase s t) (keyword : List Char) :
    startsWith keyword s = startsWith keyword t :=
  Bool.eq_iff_iff.2 ⟨startsWith_of_sameButCase h, startsWith_of_sameButCase h.symm⟩

theorem roll?_eq_of_sameButCase (h : Text.SameButCase s t) : roll? s = roll? t := by
  rw [roll?, roll?, h.lowercase_eq]

theorem reroll?_eq_of_sameButCase (h : Text.SameButCase s t) : reroll? s = reroll? t := by
  rw [reroll?, reroll?, h.lowercase_eq]

end ChatDice.Command
