import ChatDice.Json.Generic
import ChatDice.Proofs.Json.RoundTrip

/-! # Written values as generic ones

    A written value goes through the generic reader unharmed if it makes sense, is
    not nested too deep and no object repeats a name.  `Faithful` says this of a
    value; it is shown of texts and integers, and kept by arrays and records.

    - `readGeneric_written`: a faithful value is read back as it stands.
-/

namespace ChatDice.Json

/-! ## Values read back as they stand -/

@[simp] theorem reread_text (s : String) : (text s).reread = string (.reread (.ofText s)) := rfl

@[simp] theorem reread_int (i : Int) : (int i).reread = int i := rfl

@[simp] theorem reread_array (items : List Json) :
    (array items).reread = array (items.map reread) := by
  rw [reread, rereadItems_eq_map]

/-- The members of a record as they are read back. -/
def rereadNamed (members : List (String × Json)) : List (Quoted × Json) :=
  members.map fun m => ((Quoted.ofText m.1).reread, m.2.reread)

@[simp] theorem reread_record (members : List (String × Json)) :
    (record members).reread = object (rereadNamed members) := by
  rw [record, reread, rereadMembers_eq_map, List.map_map]
  rfl

/-! ## Lists of values -/

theorem areSound_iff {room : Nat} {items : List Json} :
    areSound room items = true ↔ ∀ j ∈ items, j.isSound room = true := by
  induction items with
  | nil => simp [areSound]
  | cons j js ih => simp [areSound, ih]

theorem membersSound_rereadNamed_iff {room : Nat} {members : List (String × Json)} :
    membersSound room (rereadNamed members) = true ↔
      ∀ m ∈ members, m.2.reread.isSound room = true := by
  induction members with
  | nil => simp [rereadNamed, membersSound]
  | cons m ms ih =>
    rw [rereadNamed] at ih ⊢
    simp [membersSound, ih]

theorem itemsLastWins_eq_map (items : List Json) : itemsLastWins items = items.map lastWins := by
  induction items with
  | nil => rfl
  | cons j js ih => rw [itemsLastWins, List.map_cons, ih]

/-- Members with different names all stay. -/
theorem membersLastWins_rereadNamed {members : List (String × Json)}
    (hnames : (members.map Prod.fst).Nodup)
    (h : ∀ m ∈ members, m.2.reread.lastWins = m.2.reread) :
    membersLastWins (rereadNamed members) = rereadNamed members := by
  induction members with
  | nil => rfl
  | cons m ms ih =>
    rw [List.map_cons, List.nodup_cons] at hnames
    have hlater := ih hnames.2 fun m' hm' => h m' (List.mem_cons_of_mem _ hm')
    -- No later member has this name, so the member is kept.
    have hnew : hasName (some m.1) (rereadNamed ms) = false := by
      rw [hasName, List.any_eq_false]
      intro p hp
      obtain ⟨m', hm', rfl⟩ := List.mem_map.1 hp
      have hne : m'.1 ≠ m.1 := fun heq => hnames.1 (heq ▸ List.mem_map_of_mem hm')
      simpa using hne
    rw [rereadNamed] at hlater hnew ⊢
    rw [List.map_cons, membersLastWins, Quoted.text?_reread, hnew, hlater, h m (by simp)]
    rfl

/-! ## Faithful values -/

/-- A value that the generic reader gives back as it was written, with `room`
levels of nesting left. -/
structure Faithful (room : Nat) (j : Json) : Prop where
  wellFormed : j.WellFormed
  isSound    : j.reread.isSound room = true
  lastWins   : j.reread.lastWins = j.reread

theorem faithful_null (room : Nat) : Faithful room null := ⟨trivial, rfl, rfl⟩

theorem faithful_text (room : Nat) (s : String) : Faithful room (text s) := by
  refine ⟨trivial, ?_, rfl⟩
  rw [reread_text, Json.isSound, Quoted.text?_reread]
  rfl

/-- Integers of 64 bits are faithful. -/
theorem faithful_int (room : Nat) {i : Int} (h : i.natAbs ≤ Numeral.most64) :
    Faithful room (int i) :=
  ⟨Numeral.wellFormed_ofInt i, Numeral.isFinite_of_integer? (Numeral.integer?_ofInt i) h, rfl⟩

theorem faithful_array {room : Nat} {items : List Json} (h : ∀ j ∈ items, Faithful room j) :
    Faithful (room + 1) (array items) := by
  refine ⟨itemsWellFormed_iff.2 fun j hj => (h j hj).wellFormed, ?_, ?_⟩
  · rw [reread_array, Json.isSound, Bool.and_eq_true, areSound_iff]
    refine ⟨by simp, ?_⟩
    intro _ hmem
    obtain ⟨j, hj, rfl⟩ := List.mem_map.1 hmem
    exact (h j hj).isSound
  · rw [reread_array, Json.lastWins, itemsLastWins_eq_map, List.map_map]
    congr 1
    exact List.map_congr_left fun j hj => (h j hj).lastWins

theorem faithful_record {room : Nat} {members : List (String × Json)}
    (hnames : (members.map Prod.fst).Nodup) (h : ∀ m ∈ members, Faithful room m.2) :
    Faithful (room + 1) (record members) := by
  refine ⟨?_, ?_, ?_⟩
  · refine membersWellFormed_iff.2 fun _ hmem => ?_
    obtain ⟨m, hm, rfl⟩ := List.mem_map.1 hmem
    exact (h m hm).wellFormed
  · rw [reread_record, Json.isSound, Bool.and_eq_true]
    exact ⟨by simp, membersSound_rereadNamed_iff.2 fun m hm => (h m hm).isSound⟩
  · rw [reread_record, Json.lastWins,
      membersLastWins_rereadNamed hnames fun m hm => (h m hm).lastWins]

/-- A faithful value goes through its text and the generic reader as it stands. -/
theorem readGeneric_written {j : Json} (h : Faithful deepest j) :
    readGeneric j.written = some j.reread := by
  simp only [readGeneric, read_written h.wellFormed, h.isSound, h.lastWins, if_true]

end ChatDice.Json
