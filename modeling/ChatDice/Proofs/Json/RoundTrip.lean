import ChatDice.Proofs.Json.Grammar

/-! # JSON values read back

    A written value is read back as it stands, but for the form of its strings: what
    is written is a text of the value that is read back.

    - `Json.jsonText_written`: what is written is JSON.
    - `Json.read_written`: a written value is read back.
-/

namespace ChatDice.Json

/-! ## Values as they are read back -/

mutual

/-- A value as it is read back. -/
def reread : Json → Json
  | string q       => string q.reread
  | array items    => array (rereadItems items)
  | object members => object (rereadMembers members)
  | j              => j

/-- The items of an array as they are read back. -/
def rereadItems : List Json → List Json
  | []      => []
  | j :: js => reread j :: rereadItems js

/-- The members of an object as they are read back. -/
def rereadMembers : List (Quoted × Json) → List (Quoted × Json)
  | []           => []
  | (k, j) :: ms => (k.reread, reread j) :: rereadMembers ms

end

mutual

/-- A value all of whose numbers are numerals that JSON allows. -/
def WellFormed : Json → Prop
  | number n       => n.WellFormed
  | array items    => ItemsWellFormed items
  | object members => MembersWellFormed members
  | _              => True

/-- Items of an array that are all well-formed. -/
def ItemsWellFormed : List Json → Prop
  | []      => True
  | j :: js => WellFormed j ∧ ItemsWellFormed js

/-- Members of an object that are all well-formed. -/
def MembersWellFormed : List (Quoted × Json) → Prop
  | []           => True
  | (_, j) :: ms => WellFormed j ∧ MembersWellFormed ms

end

theorem rereadItems_eq_map (items : List Json) : rereadItems items = items.map reread := by
  induction items with
  | nil => rfl
  | cons j js ih => rw [rereadItems, List.map_cons, ih]

theorem rereadMembers_eq_map (members : List (Quoted × Json)) :
    rereadMembers members = members.map fun m => (m.1.reread, m.2.reread) := by
  induction members with
  | nil => rfl
  | cons m ms ih => rw [rereadMembers, List.map_cons, ih]

theorem itemsWellFormed_iff {items : List Json} :
    ItemsWellFormed items ↔ ∀ j ∈ items, j.WellFormed := by
  induction items with
  | nil => simp [ItemsWellFormed]
  | cons j js ih => simp [ItemsWellFormed, ih]

theorem membersWellFormed_iff {members : List (Quoted × Json)} :
    MembersWellFormed members ↔ ∀ m ∈ members, m.2.WellFormed := by
  induction members with
  | nil => simp [MembersWellFormed]
  | cons m ms ih => simp [MembersWellFormed, ih]

/-! ## What is written -/

/-- An item with its text. -/
def writtenItem (j : Json) : Json × List Char := (j.reread, j.written)

/-- A member with the texts of its name and value. -/
def writtenMember (m : Quoted × Json) : MemberText :=
  ⟨m.1.reread, m.1.written, m.2.reread, m.2.written⟩

theorem flatMap_itemTokens : (items : List Json) →
    (itemTokens items).flatMap Token.written =
      [','].intercalate ((items.map writtenItem).map Prod.snd)
  | [] => rfl
  | [j] => by
    show j.written = [','].intercalate [j.written]
    rw [List.intercalate_singleton]
  | j :: j' :: js => by
    have others := flatMap_itemTokens (j' :: js)
    simp only [List.map_cons] at others
    simp only [itemTokens, List.flatMap_append, List.flatMap_cons, others, List.map_cons,
      List.intercalate_cons_cons, List.append_assoc]
    rfl

theorem flatMap_memberTokens : (members : List (Quoted × Json)) →
    (memberTokens members).flatMap Token.written =
      [','].intercalate ((members.map writtenMember).map MemberText.text)
  | [] => rfl
  | [(k, j)] => by
    show k.written ++ ':' :: j.written = [','].intercalate [k.written ++ ':' :: j.written]
    rw [List.intercalate_singleton]
  | (k, j) :: m :: ms => by
    -- A comma stands before the next member, so the tail has to have one.
    have others := flatMap_memberTokens (m :: ms)
    simp only [List.map_cons] at others
    simp only [memberTokens, List.flatMap_append, List.flatMap_cons, List.cons_append, others,
      List.map_cons, List.intercalate_cons_cons, List.append_assoc, MemberText.text, writtenMember]
    rfl

mutual

/-- What is written is a text of the value that is read back. -/
theorem jsonText_written : (j : Json) → j.WellFormed → JsonText j.reread j.written
  | null, _ => .null
  | bool b, _ => by
    show JsonText (bool b) ((Token.bool b).written ++ [])
    rw [List.append_nil]
    exact .bool b
  | string q, _ => by
    show JsonText (string q.reread) (q.written ++ [])
    rw [List.append_nil]
    exact .string (Quoted.quotedText_written q)
  | number n, hn => by
    show JsonText (number n) (n.written ++ [])
    rw [List.append_nil]
    exact .number (Token.numeralText_written hn)
  | array [], _ => .emptyArray [] (by simp)
  | array (j :: js), hitems => by
    -- The text of an array joins those of its items; its tokens are the same text.
    have text := JsonText.array ((j :: js).map writtenItem) (by simp)
      (itemTexts (j :: js) hitems)
    rw [← flatMap_itemTokens, List.map_map] at text
    rw [reread, rereadItems_eq_map, written, tokens, List.flatMap_append, List.flatMap_cons]
    exact text
  | object [], _ => .emptyObject [] (by simp)
  | object (m :: ms), hmembers => by
    -- Names are written as other strings are, so each of them is read back too.
    have names : ∀ p ∈ (m :: ms).map writtenMember, NameText p.name p.nameText := by
      intro p hp
      obtain ⟨m, -, rfl⟩ := List.mem_map.1 hp
      exact ⟨[], m.1.written, [], by simp [writtenMember], Quoted.quotedText_written m.1, by simp,
        by simp⟩
    have text := JsonText.object ((m :: ms).map writtenMember) (by simp) names
      (memberTexts (m :: ms) hmembers)
    rw [← flatMap_memberTokens, List.map_map] at text
    rw [reread, rereadMembers_eq_map, written, tokens, List.flatMap_append, List.flatMap_cons]
    exact text

theorem itemTexts : (items : List Json) → ItemsWellFormed items →
    ∀ p ∈ items.map writtenItem, JsonText p.1 p.2
  | [], _ => by simp
  | j :: js, hitems => by
    rw [List.map_cons, List.forall_mem_cons]
    exact ⟨jsonText_written j hitems.1, itemTexts js hitems.2⟩

theorem memberTexts : (members : List (Quoted × Json)) → MembersWellFormed members →
    ∀ p ∈ members.map writtenMember, JsonText p.value p.valueText
  | [], _ => by simp
  | (_, j) :: ms, hmembers => by
    rw [List.map_cons, List.forall_mem_cons]
    exact ⟨jsonText_written j hmembers.1, memberTexts ms hmembers.2⟩

end

/-- A written value is read back. -/
theorem read_written {j : Json} (h : j.WellFormed) : read j.written = some j.reread :=
  read_of_jsonText (jsonText_written j h)

end ChatDice.Json
