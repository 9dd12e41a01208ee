import ChatDice.Proofs.Log.Codec
import Mathlib.Algebra.Group.Int.Defs

/-! # Outcomes of the older shape

    Outcomes were once written as an array of two arrays, one of the dice and one of
    total and modifier, and dice that do not count went by names of their own.

    - `Outcome.SpelledOlder`: the values that spell an outcome in this shape.
    - `Outcome.ofOlderJson?_eq_some_iff`: these are read, and nothing else.
    - `Outcome.ofJson?_eq_none_of_older`: none of them has the current shape.
    - `Outcome.ofEitherJson?_older`: so outcomes of the older shape are read as what
      they spell, whichever shape is tried first.
    - `Roll.ofJson?_older`: and so are the rolls that have them.
-/

namespace ChatDice

open Json

/-! ## Names -/

namespace Json

/-- The values that choose a name: a string of it, or an object whose only member has
this name and holds null. -/
inductive Names (name : String) : Json → Prop
  | string {q : Quoted} (text : q.text? = some name) : Names name (string q)
  | object {k : Quoted} (text : k.text? = some name) : Names name (object [(k, null)])

theorem chosen?_isNull_eq_some_iff {j : Json} {name : String} :
    j.chosen? isNull = some name ↔ j.Names name := by
  constructor
  · intro h
    unfold chosen? at h
    split at h
    · exact .string h
    · next k j =>
      -- Only null stands for nothing.
      cases j with
      | null => exact .object h
      | bool _ | number _ | string _ | array _ | object _ => cases h
    · cases h
  · rintro (⟨text⟩ | ⟨text⟩)
    · exact text
    · exact text

@[simp] theorem names_text_iff {s name : String} : (text s).Names name ↔ s = name := by
  rw [← chosen?_isNull_eq_some_iff, text, chosen?, Quoted.text?_ofText, Option.some.injEq]

theorem Names.isSound {j : Json} {name : String} (h : j.Names name) (room : Nat) :
    j.isSound (room + 1) = true := by
  cases h with
  | string text => simp [Json.isSound, text]
  | object text => simp [Json.isSound, membersSound, text]

theorem Denotes.isSound {j : Json} {i : Int} (h : j.Denotes i) (hi : i.natAbs ≤ Numeral.most64)
    (room : Nat) : j.isSound room = true := by
  cases j with
  | number n => exact Numeral.isFinite_of_integer? h hi
  | null | bool _ | string _ | array _ | object _ => exact h.elim

end Json

/-! ## Dice -/

namespace DieResult

/-- The values that spell a result in the older shape. -/
def SpelledOlder : DieResult → Json → Prop
  | counted v, j => j.Denotes v.toNat
  | dropped,   j => j.Names "DH" ∨ j.Names "DL"
  | keptOut,   j => j.Names "KH" ∨ j.Names "KL"

/-- A number is a result that counts; a name is looked up. -/
theorem ofJsonNamed?_eq_some_iff {names : List (String × DieResult)} {j : Json} {d : DieResult} :
    ofJsonNamed? names j = some d ↔
      (∃ v : UInt16, j.Denotes v.toNat ∧ counted v = d) ∨
        ∃ name, j.Names name ∧ names.lookup name = some d := by
  by_cases hnumber : ∃ n, j = number n
  · obtain ⟨n, rfl⟩ := hnumber
    -- A number is never a name.
    rw [ofJsonNamed?, Option.map_eq_some_iff]
    simp only [uint16?_eq_some_iff]
    constructor
    · exact .inl
    · rintro (h | ⟨name, ⟨⟩, -⟩)
      exact h
  · -- Anything else is looked up by the name that it chooses.
    rw [ofJsonNamed?.eq_2 _ _ fun n hn => hnumber ⟨n, hn⟩, Option.bind_eq_some_iff]
    simp only [chosen?_isNull_eq_some_iff]
    constructor
    · exact .inr
    · rintro (⟨v, hv, -⟩ | h)
      · cases j with
        | number n => exact (hnumber ⟨n, rfl⟩).elim
        | null | bool _ | string _ | array _ | object _ => exact hv.elim
      · exact h

theorem lookup_olderNamed {name : String} {d : DieResult} :
    olderNamed.lookup name = some d ↔
      (name = "DH" ∨ name = "DL") ∧ d = dropped ∨ (name = "KH" ∨ name = "KL") ∧ d = keptOut := by
  simp only [olderNamed, List.lookup_cons, List.lookup_nil]
  grind

/-- With the older names exactly the results that are spelled so are read. -/
theorem ofJsonNamed?_older_iff {j : Json} {d : DieResult} :
    ofJsonNamed? olderNamed j = some d ↔ d.SpelledOlder j := by
  rw [ofJsonNamed?_eq_some_iff]
  simp only [lookup_olderNamed]
  cases d with
  | counted v => simp [SpelledOlder]
  | dropped => simp [SpelledOlder, and_or_left, exists_or]
  | keptOut => simp [SpelledOlder, and_or_left, exists_or]

/-- An integer spells a face that is equal to it, and no other result. -/
theorem spelledOlder_int_iff {d : DieResult} {i : Int} :
    d.SpelledOlder (int i) ↔ ∃ v : UInt16, i = v.toNat ∧ d = counted v := by
  have hnames {name : String} : ¬ (int i).Names name := fun h => by cases h
  cases d with
  | counted v => simp [SpelledOlder]
  | dropped => simp [SpelledOlder, hnames]
  | keptOut => simp [SpelledOlder, hnames]

/-- A text spells a result only if it is one of four names. -/
theorem spelledOlder_text_iff {d : DieResult} {s : String} :
    d.SpelledOlder (Json.text s) ↔
      (s = "DH" ∨ s = "DL") ∧ d = dropped ∨ (s = "KH" ∨ s = "KL") ∧ d = keptOut := by
  cases d with
  | counted v => simp [SpelledOlder, Json.text, Denotes]
  | dropped => simp [SpelledOlder]
  | keptOut => simp [SpelledOlder]

theorem SpelledOlder.isSound {d : DieResult} {j : Json} (h : d.SpelledOlder j) (room : Nat) :
    j.isSound (room + 1) = true := by
  cases d with
  | counted v =>
    have hv : v.toNat < 65536 := v.toNat_lt
    have hmost : 65536 ≤ Numeral.most64 := by decide
    exact Denotes.isSound h (by omega) _
  | dropped => exact h.elim (·.isSound room) (·.isSound room)
  | keptOut => exact h.elim (·.isSound room) (·.isSound room)

/-- In a list that spells some results every value spells one of them. -/
theorem exists_spelledOlder_of_mem {ds : List DieResult} {js : List Json} {j : Json}
    (h : List.Forall₂ SpelledOlder ds js) (hj : j ∈ js) : ∃ d : DieResult, d.SpelledOlder j := by
  induction h with
  | nil => cases hj
  | cons hd _ ih =>
    rcases List.mem_cons.1 hj with rfl | htail
    · exact ⟨_, hd⟩
    · exact ih htail

end DieResult

/-! ## Outcomes -/

namespace Outcome

/-- The values that spell an outcome in the older shape. -/
inductive SpelledOlder (o : Outcome) : Json → Prop
  | arrays {js : List Json} {t m : Json} (dice : List.Forall₂ DieResult.SpelledOlder o.dice js)
      (total : t.Denotes o.total.toInt) (modifier : m.Denotes o.modifier.toInt) :
      SpelledOlder o (array [array js, array [t, m]])

/-- Of the older shape are exactly the values that spell an outcome in it. -/
theorem ofOlderJson?_eq_some_iff {j : Json} {o : Outcome} :
    ofOlderJson? j = some o ↔ o.SpelledOlder j := by
  have hallOf {js : List Json} {ds : List DieResult} :
      allOf (DieResult.ofJsonNamed? DieResult.olderNamed) js = some ds ↔
        List.Forall₂ DieResult.SpelledOlder ds js := by
    rw [allOf_eq_some_iff]
    simp only [DieResult.ofJsonNamed?_older_iff]
  constructor
  · intro h
    unfold ofOlderJson? at h
    split at h
    · next dice t m =>
      -- Results, total and modifier are read one by one, and each is what was spelled.
      obtain ⟨ds, hds, h⟩ := Option.bind_eq_some_iff.1 h
      obtain ⟨total, htotal, h⟩ := Option.bind_eq_some_iff.1 h
      obtain ⟨modifier, hmodifier, h⟩ := Option.bind_eq_some_iff.1 h
      obtain rfl := Option.some.inj h
      obtain ⟨js, hjs, hds⟩ := Option.bind_eq_some_iff.1 hds
      -- Results that can be listed are in an array.
      cases dice with
      | array items =>
        obtain rfl := Option.some.inj hjs
        exact .arrays (hallOf.1 hds) (int64?_eq_some_iff.1 htotal) (int16?_eq_some_iff.1 hmodifier)
      | null | bool _ | number _ | string _ | object _ => cases hjs
    · cases h
  · rintro ⟨hdice, htotal, hmodifier⟩
    apply bind_eq_of_eq_some (hallOf.2 hdice)
    apply bind_eq_of_eq_some (int64?_eq_some_iff.2 htotal)
    exact bind_eq_of_eq_some (int16?_eq_some_iff.2 hmodifier) rfl

/-- What spells an outcome makes sense in itself. -/
theorem SpelledOlder.isSound {o : Outcome} {j : Json} (h : o.SpelledOlder j) (room : Nat) :
    j.isSound (room + 3) = true := by
  obtain @⟨js, t, m, hdice, htotal, hmodifier⟩ := h
  have le_total := o.total.le_toInt
  have total_lt := o.total.toInt_lt
  have le_modifier := o.modifier.le_toInt
  have modifier_lt := o.modifier.toInt_lt
  have hmost : 2 ^ 63 ≤ Numeral.most64 := by decide
  have hjs : areSound (room + 1) js = true := by
    rw [areSound_iff]
    intro j hj
    obtain ⟨d, hd⟩ := DieResult.exists_spelledOlder_of_mem hdice hj
    exact hd.isSound room
  simp [Json.isSound, areSound, hjs, htotal.isSound (by omega), hmodifier.isSound (by omega)]

/-- The two shapes are arrays of different lengths, or one is no array. -/
theorem ofJson?_eq_none_of_older {o : Outcome} {j : Json} (h : o.SpelledOlder j) (room : Nat) :
    ofJson? room j = none := by
  cases h
  rfl

/-- No value has both shapes. -/
theorem ofJson?_eq_none_or_older (room : Nat) (j : Json) :
    ofJson? room j = none ∨ ofOlderJson? j = none := by
  cases holder : ofOlderJson? j with
  | none => exact .inr rfl
  | some o => exact .inl (ofJson?_eq_none_of_older (ofOlderJson?_eq_some_iff.1 holder) room)

/-- Since no value has both shapes, it does not matter which one is tried first. -/
theorem ofEitherJson?_eq (room : Nat) (j : Json) :
    ofEitherJson? room j =
      if j.isSound room then (ofOlderJson? j).or (ofJson? room j) else none := by
  rw [ofEitherJson?]
  congr 1
  rcases ofJson?_eq_none_or_older room j with hnone | hnone
  · rw [hnone, Option.or_none]
  · rw [hnone, Option.none_or]
    cases ofJson? room j with
    | none => rfl
    | some o => rfl

theorem ofEitherJson?_of_spelledOlder {o : Outcome} {j : Json} (h : o.SpelledOlder j)
    (room : Nat) : ofEitherJson? (room + 3) j = some o := by
  rw [ofEitherJson?_eq, if_pos (h.isSound room), ofOlderJson?_eq_some_iff.2 h, Option.some_or]

/-- **Outcomes of the older shape are read as what they spell**, with any list of dice and
any total and modifier; a value in which one part spells nothing is refused as a whole.
No value has both shapes, so they may be tried in either order. -/
theorem ofEitherJson?_older :
    (∀ (room : Nat) (o : Outcome) (js : List Json) (t m : Json),
      List.Forall₂ DieResult.SpelledOlder o.dice js → t.Denotes o.total.toInt →
        m.Denotes o.modifier.toInt →
        ofEitherJson? (room + 3) (array [array js, array [t, m]]) = some o) ∧
    (∀ (room : Nat) (js : List Json) (t m : Json),
      ((∃ j ∈ js, ∀ d : DieResult, ¬ d.SpelledOlder j) ∨ (∀ i : Int64, ¬ t.Denotes i.toInt) ∨
        ∀ i : Int16, ¬ m.Denotes i.toInt) →
        ofEitherJson? room (array [array js, array [t, m]]) = none) ∧
    (∀ (room : Nat) (j : Json), ofJson? room j = none ∨ ofOlderJson? j = none) ∧
    ∀ (room : Nat) (j : Json),
      ofEitherJson? room j =
        if j.isSound room then (ofOlderJson? j).or (ofJson? room j) else none := by
  refine ⟨?_, ?_, ofJson?_eq_none_or_older, ofEitherJson?_eq⟩
  · intro room o js t m hdice htotal hmodifier
    exact ofEitherJson?_of_spelledOlder (.arrays hdice htotal hmodifier) room
  · intro room js t m hpart
    have holder : ofOlderJson? (array [array js, array [t, m]]) = none := by
      rw [Option.eq_none_iff_forall_not_mem]
      intro o ho
      obtain ⟨hdice, htotal, hmodifier⟩ := ofOlderJson?_eq_some_iff.1 ho
      rcases hpart with ⟨j, hj, hdie⟩ | hnone | hnone
      · obtain ⟨d, hd⟩ := DieResult.exists_spelledOlder_of_mem hdice hj
        exact hdie d hd
      · exact hnone _ htotal
      · exact hnone _ hmodifier
    -- An array of two values never has the current shape.
    rw [ofEitherJson?_eq, holder, Option.none_or, show ofJson? room _ = none from rfl, ite_self]

/-- A mark between faces is read; another name is refused, and so are a face of 17 bits and
a total of 65 bits. -/
theorem ofEitherJson?_older_mixed :
    ofEitherJson? 3 (array [array [int 4, Json.text "DH", int 1], array [int 7, int 2]]) =
        some ⟨[.counted 4, .dropped, .counted 1], 7, 2⟩ ∧
      ofEitherJson? 3 (array [array [int 4, Json.text "XX"], array [int 4, int 0]]) = none ∧
      ofEitherJson? 3 (array [array [int 65536], array [int 4, int 0]]) = none ∧
      ofEitherJson? 3 (array [array [], array [int (2 ^ 63), int 0]]) = none := by
  obtain ⟨hread, hrefused, -, -⟩ := ofEitherJson?_older
  have hdice : List.Forall₂ DieResult.SpelledOlder [.counted 4, .dropped, .counted 1]
      [int 4, Json.text "DH", int 1] :=
    .cons (DieResult.spelledOlder_int_iff.2 ⟨4, rfl, rfl⟩)
      (.cons (DieResult.spelledOlder_text_iff.2 (.inl ⟨.inl rfl, rfl⟩))
        (.cons (DieResult.spelledOlder_int_iff.2 ⟨1, rfl, rfl⟩) .nil))
  have hname (d : DieResult) : ¬ d.SpelledOlder (Json.text "XX") := by
    simp [DieResult.spelledOlder_text_iff]
  have hface (d : DieResult) : ¬ d.SpelledOlder (int 65536) := by
    rw [DieResult.spelledOlder_int_iff]
    rintro ⟨v, hv, -⟩
    have hlt : v.toNat < 65536 := v.toNat_lt
    omega
  have htotal (i : Int64) : ¬ (int (2 ^ 63)).Denotes i.toInt := by
    have hi := i.toInt_lt
    rw [denotes_int_iff]
    omega
  exact ⟨hread 0 ⟨_, 7, 2⟩ _ _ _ hdice (denotes_int_iff.2 rfl) (denotes_int_iff.2 rfl),
    hrefused 3 _ _ _ (.inl ⟨_, by simp, hname⟩), hrefused 3 _ _ _ (.inl ⟨_, by simp, hface⟩),
    hrefused 3 _ _ _ (.inr (.inl htotal))⟩

end Outcome

/-- A roll with results of the older shape is read with its request. -/
theorem Roll.ofJson?_older {o : Outcome} {results : Json} (h : o.SpelledOlder results.reread)
    (q : Request) (room : Nat) :
    ofJson? (room + 4) (record (q.members ++ [("results", results)])).reread =
      some { request := q, outcome := o } :=
  ofJson?_members q (Outcome.ofEitherJson?_of_spelledOlder h room)

end ChatDice
