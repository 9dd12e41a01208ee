import ChatDice.Proofs.Command.Acceptance
import ChatDice.Proofs.Text.Lowercase

/-! # Reroll commands

    A reroll command may be typed with white space around it, any white space
    between its two words, and both words in any case.  It is routed as a reroll
    and read as the reference it names.

    - `IsRerollOf`: what may be typed to reroll a reference.
    - `isReroll_of_isBareReroll`: how the trimmed text is routed.
    - `reroll?_of_isBareReroll`: what it is read as.
-/

namespace ChatDice.Command

/-! ## What may be typed -/

/-- A text made of the keyword in any case, white space, and a token in any case. -/
def IsBareReroll (text token : List Char) : Prop :=
  ∃ keyword blanks typed, text = keyword ++ (blanks ++ typed) ∧
    keyword.map Char.toLower = rerollKeyword ∧ typed.map Char.toLower = token ∧
    blanks ≠ [] ∧ ∀ c ∈ blanks, Text.isBlank c = true

/-- The same with any white space around it. -/
def IsRerollOf (text token : List Char) : Prop :=
  ∃ before bare after, text = before ++ bare ++ after ∧ IsBareReroll bare token ∧
    (∀ c ∈ before, Text.isBlank c = true) ∧ ∀ c ∈ after, Text.isBlank c = true

/-- What tokens are made of: letters and digits, at least one of them. -/
def IsToken (token : List Char) : Prop := token ≠ [] ∧ ∀ c ∈ token, c.isAlphanum = true

/-! ## Typed commands -/

/-- A typed command in ASCII lower case is the keyword, white space, and the token. -/
theorem map_toLower_of_isBareReroll {text token : List Char} (h : IsBareReroll text token) :
    ∃ blanks, text.map Char.toLower = rerollKeyword ++ (blanks ++ token) ∧ blanks ≠ [] ∧
      ∀ c ∈ blanks, Text.isBlank c = true := by
  obtain ⟨keyword, blanks, typed, rfl, hkeyword, htyped, hne, hblanks⟩ := h
  refine ⟨blanks.map Char.toLower, ?_, by simpa using hne, ?_⟩
  · rw [List.map_append, List.map_append, hkeyword, htyped]
  · intro c hc
    obtain ⟨d, hd, rfl⟩ := List.mem_map.1 hc
    rw [Text.isBlank_toLower]
    exact hblanks d hd

/-- White space around a typed command is trimmed away. -/
theorem isBareReroll_trim {text token : List Char} (h : IsRerollOf text token)
    (htoken : IsToken token) : IsBareReroll (Text.trim text) token := by
  obtain ⟨before, bare, after, rfl, hbare, hbefore, hafter⟩ := h
  obtain ⟨blanks, hlower, -, -⟩ := map_toLower_of_isBareReroll hbare
  have hne : bare ≠ [] := by
    rintro rfl
    cases hlower
  -- The text starts with a slash and ends with a letter or digit, in whatever case.
  have hfirst : ∀ c ∈ bare.head?, Text.isBlank c = false := by
    intro c hc
    have hslash : (bare.map Char.toLower).head? = some c.toLower := by
      rw [List.head?_map, hc]
      rfl
    rw [hlower] at hslash
    obtain hslash : '/' = c.toLower := Option.some.inj hslash
    rw [← Text.isBlank_toLower, ← hslash]
    decide
  have hlast : ∀ c ∈ bare.getLast?, Text.isBlank c = false := by
    intro c hc
    have hend : (bare.map Char.toLower).getLast? = some c.toLower := by
      rw [List.getLast?_map, hc]
      rfl
    obtain ⟨d, hd⟩ := Option.isSome_iff_exists.1 (List.getLast?_isSome.2 htoken.1)
    rw [hlower, ← List.append_assoc, List.getLast?_append, hd, Option.some_or] at hend
    obtain rfl := Option.some.inj hend
    rw [← Text.isBlank_toLower]
    exact Text.isBlank_of_isAlphanum (htoken.2 _ (List.mem_of_getLast? hd))
  rw [Text.trim_blanks hbefore hafter hne hfirst hlast]
  exact hbare

/-- A typed command is routed as a reroll. -/
theorem isReroll_of_isBareReroll {text token : List Char} (h : IsBareReroll text token) :
    isReroll text = true := by
  obtain ⟨keyword, blanks, typed, rfl, hkeyword, -, hne, hblanks⟩ := h
  have hlength : rerollKeyword.length = keyword.length := by rw [← hkeyword, List.length_map]
  obtain ⟨c, cs, rfl⟩ := List.exists_cons_of_ne_nil hne
  have hc := hblanks c (by simp)
  rw [isReroll, startsWith, hlength, List.take_left, List.drop_left, hkeyword]
  simpa using hc

/-- A typed command is read as its token. -/
theorem reroll?_of_isBareReroll {text token : List Char} (h : IsBareReroll text token)
    (htoken : IsToken token) : reroll? text = some token := by
  have hplain : ∀ c ∈ text, c.toNat < 128 ∨ Text.isBlank c = true := by
    -- Keyword and token are ASCII, and between them is white space only.
    obtain ⟨keyword, blanks, typed, rfl, hkeyword, htyped, -, hblanks⟩ := h
    intro c hc
    rcases List.mem_append.1 hc with hc | hc
    · have hlower : c.toLower ∈ rerollKeyword := hkeyword ▸ List.mem_map_of_mem hc
      have hascii : ∀ d ∈ rerollKeyword, d.toNat < 128 := by simp [rerollKeyword]
      exact .inl (Text.ascii_of_toLower (hascii _ hlower))
    · rcases List.mem_append.1 hc with hc | hc
      · exact .inr (hblanks c hc)
      · have hlower : c.toLower ∈ token := htyped ▸ List.mem_map_of_mem hc
        exact .inl (Text.ascii_of_toLower (Text.ascii_of_isAlphanum (htoken.2 _ hlower)))
  obtain ⟨blanks, hlower, hne, hblanks⟩ := map_toLower_of_isBareReroll h
  -- Lower case goes character by character, so the command is spelled.
  let spelled : RerollText :=
    ⟨blanks, token, [], hne, hblanks, htoken.1, htoken.2, List.forall_mem_nil _⟩
  have hspelled : spelled.chars = rerollKeyword ++ (blanks ++ token) := by
    simp only [spelled, RerollText.chars, List.append_nil]
  refine reroll?_iff.2 ⟨spelled, ?_, rfl⟩
  rw [Text.lowercase_eq_map hplain, hlower, hspelled]

end ChatDice.Command
