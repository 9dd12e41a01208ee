import ChatDice.Dice.Outcome

/-! # Descriptions as lists

    A description lists the dice of an outcome in brackets, with a comma and a space
    between them.  Dice past the limit are counted in one last item of the list.  The text
    of that item is made apart from the others and always brings a comma, so the list is
    well formed exactly if a die stands before it, or no item is needed.

    - `items`, `listing`: the list that a description is meant to be.
    - `describeChars_eq`: the parts that it is made of.
    - `describeChars_of_listed`, `describeChars_of_none_listed`: where the two agree, and
      how they differ elsewhere.
    - `describe_eq_listing_iff`: all outcomes and limits.
-/

namespace ChatDice.Outcome

/-! ## The list that is meant -/

/-- The item that stands for dice that are not listed. -/
def moreItem (hidden : Nat) : List Char := Decimal.digits hidden ++ " more...".toList

/-- The items of the list: the first dice up to the limit, and one more item if there are
dice past it. -/
def items (o : Outcome) : Option Nat → List (List Char)
  | none   => o.dice.map DieResult.written
  | some n =>
    (o.dice.take (min o.dice.length n)).map DieResult.written ++
      if n < o.dice.length then [moreItem (o.dice.length - n)] else []

/-- What follows the list: the modifier with its sign, unless it is zero, and the total. -/
def summary (o : Outcome) : List Char :=
  modifierNote o.modifier ++ (" = ".toList ++ Decimal.integer o.total.toInt)

/-- The items in brackets, separated by a comma and a space, and the summary. -/
def listing (o : Outcome) (limit : Option Nat) : List Char :=
  '[' :: (commaSeparated (o.items limit) ++ (']' :: o.summary))

/-! ## The list that is made -/

theorem moreNote_of_pos {hidden : Nat} (h : 0 < hidden) :
    moreNote hidden = ',' :: ' ' :: moreItem hidden := by
  rw [moreNote, if_neg (Nat.pos_iff_ne_zero.1 h), List.append_assoc]
  rfl

/-- An item after others follows a comma and a space. -/
theorem commaSeparated_concat {items : List (List Char)} (h : items ≠ []) (last : List Char) :
    commaSeparated (items ++ [last]) = commaSeparated items ++ ',' :: ' ' :: last := by
  unfold commaSeparated
  induction items with
  | nil => exact absurd rfl h
  | cons item items ih =>
    -- The last comma is in front of the new item exactly if no other item is left.
    by_cases hitems : items = []
    · subst hitems
      show [',', ' '].intercalate [item, last] = [',', ' '].intercalate [item] ++ _
      rw [List.intercalate_cons_cons, List.intercalate_singleton, List.intercalate_singleton,
        List.append_assoc]
      rfl
    · rw [List.cons_append, List.intercalate_cons_of_ne_nil (by simp), ih hitems,
        List.intercalate_cons_of_ne_nil hitems]
      simp only [List.append_assoc]

/-- A note behind a list is an item of it, if there is another item or nothing to note. -/
theorem commaSeparated_append_moreNote {listed : List (List Char)} {hidden : Nat}
    (h : listed ≠ [] ∨ hidden = 0) :
    commaSeparated listed ++ moreNote hidden =
      commaSeparated (listed ++ if 0 < hidden then [moreItem hidden] else []) := by
  by_cases hpos : 0 < hidden
  · have hlisted : listed ≠ [] := h.resolve_right (Nat.pos_iff_ne_zero.1 hpos)
    rw [if_pos hpos, commaSeparated_concat hlisted, moreNote_of_pos hpos]
  · obtain rfl : hidden = 0 := Nat.eq_zero_of_not_pos hpos
    rw [if_neg hpos, List.append_nil]
    exact List.append_nil _

/-- The limit as a number of dice: without one it is the number of all dice. -/
def cutoff (o : Outcome) (limit : Option Nat) : Nat := limit.getD o.dice.length

theorem items_eq (o : Outcome) (limit : Option Nat) :
    o.items limit = (o.dice.take (o.cutoff limit)).map DieResult.written ++
      if 0 < o.dice.length - o.cutoff limit then [moreItem (o.dice.length - o.cutoff limit)]
      else [] := by
  cases limit with
  | none =>
    show o.dice.map DieResult.written = (o.dice.take o.dice.length).map DieResult.written ++ _
    rw [List.take_length, cutoff, Option.getD_none, Nat.sub_self]
    exact (List.append_nil _).symm
  | some n =>
    -- A limit past the last die cuts nothing off, as the number of dice does not.
    have htake : o.dice.take (min o.dice.length n) = o.dice.take n := by
      rcases Nat.le_total n o.dice.length with hle | hle
      · rw [Nat.min_eq_right hle]
      · rw [Nat.min_eq_left hle, List.take_length, List.take_of_length_le hle]
    rw [items, htake, cutoff, Option.getD_some]
    simp only [Nat.sub_pos_iff_lt]

/-- A description by its parts. -/
theorem describeChars_eq (o : Outcome) (limit : Option Nat) :
    o.describeChars limit =
      '[' :: (commaSeparated ((o.dice.take (o.cutoff limit)).map DieResult.written) ++
        (moreNote (o.dice.length - o.cutoff limit) ++ (']' :: o.summary))) := by
  obtain ⟨listed, hlisted, hchars⟩ : ∃ listed, listed = o.dice.take (o.cutoff limit) ∧
      o.describeChars limit = '[' :: commaSeparated (listed.map DieResult.written) ++
        moreNote (o.dice.length - listed.length) ++ [']'] ++ modifierNote o.modifier ++
        " = ".toList ++ Decimal.integer o.total.toInt := by
    cases limit with
    | none => exact ⟨o.dice, List.take_length.symm, rfl⟩
    | some n => exact ⟨o.dice.take n, rfl, rfl⟩
  have hhidden : o.dice.length - listed.length = o.dice.length - o.cutoff limit := by
    rw [hlisted, List.length_take]
    omega
  rw [hchars, hhidden, hlisted]
  simp only [summary, List.append_assoc, List.cons_append, List.nil_append]

/-! ## Where they agree -/

/-- A description is the list that is meant, if a die is listed or none is left out. -/
theorem describeChars_of_listed {o : Outcome} {limit : Option Nat}
    (h : limit ≠ some 0 ∨ o.dice = []) : o.describeChars limit = o.listing limit := by
  have hlisted : (o.dice.take (o.cutoff limit)).map DieResult.written ≠ [] ∨
      o.dice.length - o.cutoff limit = 0 := by
    -- With a die, only the limit zero lists none.
    by_cases hdice : o.dice = []
    · right
      rw [hdice]
      exact Nat.zero_sub _
    · cases limit with
      | none => exact .inr (Nat.sub_self _)
      | some n =>
        have hn : n ≠ 0 := by
          rintro rfl
          exact h.elim (fun hne => hne rfl) hdice
        left
        simp [cutoff, hdice, hn]
  rw [describeChars_eq, listing, items_eq, ← commaSeparated_append_moreNote hlisted,
    List.append_assoc]

/-- A limit that no dice are past changes nothing. -/
theorem items_of_length_le {o : Outcome} {limit : Option Nat}
    (h : ∀ n ∈ limit, o.dice.length ≤ n) : o.items limit = o.items none := by
  cases limit with
  | none => rfl
  | some n =>
    have hn : o.dice.length ≤ n := h n rfl
    show (o.dice.take (min o.dice.length n)).map DieResult.written ++
      (if n < o.dice.length then _ else []) = o.dice.map DieResult.written
    rw [Nat.min_eq_left hn, List.take_length, if_neg (Nat.not_lt.2 hn), List.append_nil]

theorem describe_of_length_le {o : Outcome} {limit : Option Nat}
    (h : ∀ n ∈ limit, o.dice.length ≤ n) : o.describe limit = o.text := by
  have hlisted : limit ≠ some 0 ∨ o.dice = [] := by
    by_cases hzero : limit = some 0
    · exact .inr (List.length_eq_zero_iff.1 (Nat.le_zero.1 (h 0 hzero)))
    · exact .inl hzero
  have hfull : o.describeChars none = o.listing none := describeChars_of_listed (.inl nofun)
  rw [text, describe, describe, describeChars_of_listed hlisted, hfull, listing, listing,
    items_of_length_le h]

/-! ## Where they do not -/

/-- If no die is listed but some are left out, there is a comma too many. -/
theorem describeChars_of_none_listed {o : Outcome} (h : o.dice ≠ []) :
    ∃ rest, o.listing (some 0) = '[' :: rest ∧
      o.describeChars (some 0) = '[' :: ',' :: ' ' :: rest := by
  have hpos : 0 < o.dice.length := List.length_pos_iff.2 h
  refine ⟨moreItem o.dice.length ++ (']' :: o.summary), ?_, ?_⟩
  · rw [listing, items_eq]
    show '[' :: (commaSeparated ([] ++ if 0 < o.dice.length then _ else _) ++ _) = _
    rw [if_pos hpos]
    show '[' :: ([',', ' '].intercalate [_] ++ _) = _
    rw [List.intercalate_singleton]
    rfl
  · rw [describeChars_eq]
    show '[' :: ([] ++ (moreNote o.dice.length ++ _)) = _
    rw [moreNote_of_pos hpos]
    rfl

/-- **A description is a well-formed list of dice, unless dice are left out and none is
listed.**  It has the items that are meant, with a comma and a space between them, in
brackets and before modifier and total, exactly if the limit is not zero or there are no
dice.  Otherwise a comma and a space stand before the only item.  A limit that no dice are
past changes nothing. -/
theorem describe_eq_listing_iff (o : Outcome) (limit : Option Nat) :
    (o.describe limit = String.ofList (o.listing limit) ↔ (limit ≠ some 0 ∨ o.dice = [])) ∧
    (limit = some 0 → o.dice ≠ [] → ∃ rest, o.listing limit = '[' :: rest ∧
      o.describe limit = String.ofList ('[' :: ',' :: ' ' :: rest)) ∧
    ((∀ n ∈ limit, o.dice.length ≤ n) → o.describe limit = o.text) := by
  have hnone : limit = some 0 → o.dice ≠ [] → ∃ rest, o.listing limit = '[' :: rest ∧
      o.describe limit = String.ofList ('[' :: ',' :: ' ' :: rest) := by
    intro hlimit hdice
    obtain ⟨rest, hlisting, hchars⟩ := describeChars_of_none_listed hdice
    rw [hlimit, describe, hchars]
    exact ⟨rest, hlisting, rfl⟩
  refine ⟨⟨fun h => ?_, fun h => ?_⟩, hnone, fun h => ?_⟩
  · by_cases hdice : o.dice = []
    · exact .inr hdice
    · left
      intro hlimit
      obtain ⟨rest, hlisting, hdescribe⟩ := hnone hlimit hdice
      -- The two texts do not even have the same length.
      rw [hlisting, hdescribe] at h
      have hlength := congrArg List.length (String.ofList_injective h)
      simp only [List.length_cons] at hlength
      omega
  · rw [describe, describeChars_of_listed h]
  · exact describe_of_length_le h

/-- Two dice with a limit of zero. -/
theorem describe_eq_listing_not_always :
    ¬ ∀ (o : Outcome) (limit : Option Nat), o.describe limit = String.ofList (o.listing limit) := by
  intro always
  have htwo := always (ofFaces [3, 3] 0) (some 0)
  revert htwo
  decide +kernel

end ChatDice.Outcome
