import ChatDice.Proofs.Bot.Handling

/-! # Keywords and grammars agree

    A message is routed by its keyword as it was typed, and read in lower case as a whole.
    The keyword can as well be looked for by bytes, cutting the text where the keyword would
    end: a cut inside a character finds nothing.  No text is read by a grammar that its
    keyword does not lead to, and none has both keywords.

    - `cutAt?`, `startsWith_eq_startsWithBytes`: keywords by bytes.
    - `isRoll_of_roll?`, `isReroll_of_reroll?`: what can be read has the keyword.
    - `keyword_of_read`: all texts.
-/

namespace ChatDice

/-! ## Cutting a text by bytes -/

namespace Text

open Command (Cursor)

/-- A text cut after so many bytes, if that many are there and the cut is not inside a
character. -/
def cutAt? : Nat → List Char → Option (List Char × List Char)
  | n, []     => if n = 0 then some ([], []) else none
  | n, c :: s =>
    if n = 0 then some ([], c :: s)
    else if c.utf8Size ≤ n then
      (cutAt? (n - c.utf8Size) s).map fun parts => (c :: parts.1, parts.2)
    else none

theorem cutAt?_append (head rest : List Char) :
    cutAt? (Cursor.sizeOf head) (head ++ rest) = some (head, rest) := by
  induction head with
  | nil =>
    cases rest with
    | nil => rfl
    | cons c s => rfl
  | cons c head ih =>
    have hsize : Cursor.sizeOf (c :: head) = c.utf8Size + Cursor.sizeOf head := rfl
    have hpos : c.utf8Size + Cursor.sizeOf head ≠ 0 := by
      have := c.utf8Size_pos
      omega
    -- The first character has a byte at least, so the cut is behind it.
    rw [List.cons_append, cutAt?, hsize, if_neg hpos, if_pos (Nat.le_add_right _ _),
      Nat.add_sub_cancel_left, ih]
    rfl

/-- The parts make up the text, and the cut is where it should be. -/
theorem cutAt?_inv {n : Nat} {s head rest : List Char} (h : cutAt? n s = some (head, rest)) :
    s = head ++ rest ∧ Cursor.sizeOf head = n := by
  induction s generalizing n head with
  | nil =>
    rw [cutAt?] at h
    split at h
    · next hn =>
      cases h
      exact ⟨rfl, hn.symm⟩
    · cases h
  | cons c s ih =>
    rw [cutAt?] at h
    split at h
    · next hn =>
      cases h
      exact ⟨rfl, hn.symm⟩
    · split at h
      · next hle =>
        -- The character fits, so the cut is in the rest of the text.
        obtain ⟨⟨head', rest'⟩, hcut, heq⟩ := Option.map_eq_some_iff.1 h
        cases heq
        obtain ⟨rfl, hsize⟩ := ih hcut
        refine ⟨rfl, ?_⟩
        show c.utf8Size + Cursor.sizeOf head' = n
        omega
      · cases h

/-- Letter case does not matter to the number of bytes. -/
theorem sizeOf_map_toLower (s : List Char) : Cursor.sizeOf (s.map Char.toLower) = Cursor.sizeOf s := by
  induction s with
  | nil => rfl
  | cons c s ih =>
    have hc : c.toLower.utf8Size = c.utf8Size := eq_toLower_of_letters (by decide) c
    show c.toLower.utf8Size + Cursor.sizeOf (s.map Char.toLower) = c.utf8Size + Cursor.sizeOf s
    rw [hc, ih]

end Text

namespace Command

/-! ## Keywords by bytes -/

/-- Whether a text, cut after as many bytes as a keyword has, is the keyword in any ASCII
case and then white space or nothing. -/
def startsWithBytes (keyword text : List Char) : Bool :=
  match Text.cutAt? (Cursor.sizeOf keyword) text with
  | some (head, rest) => head.map Char.toLower == keyword && rest.head?.all Text.isBlank
  | none              => false

/-- A keyword is found by bytes where it is found by characters. -/
theorem startsWith_eq_startsWithBytes (keyword text : List Char) :
    startsWith keyword text = startsWithBytes keyword text := by
  rw [Bool.eq_iff_iff, startsWith_iff]
  constructor
  · intro h
    obtain ⟨head, rest, rfl, hhead, hrest⟩ := h
    -- Letter case keeps the number of bytes, so the cut is where the keyword ends.
    have hsize : Cursor.sizeOf keyword = Cursor.sizeOf head := by
      rw [← hhead, Text.sizeOf_map_toLower]
    rw [startsWithBytes, hsize, Text.cutAt?_append]
    simp only [hhead, BEq.rfl, Bool.true_and]
    cases hfirst : rest.head? with
    | none => rfl
    | some c => exact hrest c hfirst
  · intro h
    rw [startsWithBytes] at h
    split at h
    · next head rest hcut =>
      -- What comes before the cut is the head that is looked for.
      rw [Bool.and_eq_true, beq_iff_eq] at h
      refine ⟨head, rest, (Text.cutAt?_inv hcut).1, h.1, ?_⟩
      intro c hc
      have hblank := h.2
      rw [hc] at hblank
      exact hblank
    · cases h

/-! ## Texts that can be read -/

theorem isRoll_of_roll? {text : List Char} {q : Request} (h : roll? text = some q) :
    isRoll text = true ∧ isReroll text = false := by
  obtain ⟨t, ht, -⟩ := roll?_iff.1 h
  have hroll : isRoll text = true := isRoll_of_spelled t ht
  refine ⟨hroll, ?_⟩
  rw [← Bool.not_eq_true]
  intro hreroll
  rw [not_isRoll_of_isReroll hreroll] at hroll
  cases hroll

theorem isReroll_of_reroll? {text token : List Char} (h : reroll? text = some token) :
    isReroll text = true ∧ isRoll text = false := by
  obtain ⟨t, ht, -⟩ := reroll?_iff.1 h
  have hreroll : isReroll text = true := isReroll_of_spelled t ht
  exact ⟨hreroll, not_isRoll_of_isReroll hreroll⟩

/-- **Keywords and grammars agree.**  A text that is read as a roll has the keyword of
rolls and not that of rerolls, so that a message of this text is routed to the grammar that
reads it; and likewise for rerolls.  No text has both keywords, and none is read by both
grammars.  It is the same whether the keyword is looked for by characters or by bytes. -/
theorem keyword_of_read (text : List Char) :
    (∀ q, roll? text = some q →
      isRoll text = true ∧ isReroll text = false ∧ Route.of? text = some .roll) ∧
    (∀ token, reroll? text = some token →
      isReroll text = true ∧ isRoll text = false ∧ Route.of? text = some .reroll) ∧
    ¬ (isRoll text = true ∧ isReroll text = true) ∧
    (roll? text = none ∨ reroll? text = none) ∧
    isRoll text = startsWithBytes rollKeyword text ∧
    isReroll text = startsWithBytes rerollKeyword text := by
  refine ⟨?_, ?_, ?_, ?_, startsWith_eq_startsWithBytes _ _, startsWith_eq_startsWithBytes _ _⟩
  · intro q hq
    obtain ⟨hroll, hreroll⟩ := isRoll_of_roll? hq
    exact ⟨hroll, hreroll, Bot.route_of_isRoll hroll⟩
  · intro token htoken
    obtain ⟨hreroll, hroll⟩ := isReroll_of_reroll? htoken
    exact ⟨hreroll, hroll, Bot.route_of_isReroll hreroll⟩
  · rintro ⟨hroll, hreroll⟩
    rw [not_isRoll_of_isReroll hreroll] at hroll
    cases hroll
  · cases hq : roll? text with
    | none => exact .inl rfl
    | some q =>
      right
      -- A text that both read would have both keywords.
      rw [Option.eq_none_iff_forall_ne_some]
      intro token htoken
      have hroll := (isRoll_of_roll? hq).1
      rw [(isReroll_of_reroll? htoken).2] at hroll
      cases hroll

/-- The cut would fall inside the last letter, which has two bytes. -/
example : isRoll "/rolé 1d6".toList = false := by decide

end Command

end ChatDice
