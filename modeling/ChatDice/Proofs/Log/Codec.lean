import ChatDice.Log.Codec
import ChatDice.Proofs.Calendar.Stamps
import ChatDice.Proofs.Json.Generic
import Mathlib.Data.List.Forall2

/-! # The log file read back

    Every part of an entry is read back from its own value, whatever its fields
    hold; only the time needs a plain year, since no reader takes the stamp of
    another one.

    - `Entry.ofJson?_toJson`: an entry is read back if its year is plain, and is
      no entry otherwise.
    - `readLog_writtenLog`: so it is for all entries of a log file at once.
    - `isProper_of_readLog`: the times of the entries that are read are proper.
-/

namespace ChatDice

open Json

/-! ## Simple values -/

namespace Json

/-- The value is a numeral of this integer. -/
def Denotes (i : Int) : Json → Prop
  | number n => n.integer? = some i
  | _        => False

@[simp] theorem denotes_int_iff {i k : Int} : (int i).Denotes k ↔ i = k := by
  simp [int, Denotes]

theorem intIn?_eq_some_iff {least most i : Int} {j : Json} :
    j.intIn? least most = some i ↔ j.Denotes i ∧ least ≤ i ∧ i ≤ most := by
  cases j with
  | number n => simp [intIn?, Numeral.integerIn?, Denotes]
  | null | bool _ | string _ | array _ | object _ => simp [intIn?, Denotes]

theorem uint16?_eq_some_iff {j : Json} {v : UInt16} : j.uint16? = some v ↔ j.Denotes v.toNat := by
  have hv : v.toNat < 65536 := v.toNat_lt
  rw [uint16?, Option.map_eq_some_iff]
  constructor
  · rintro ⟨i, hi, rfl⟩
    obtain ⟨hdenotes, hleast, hmost⟩ := intIn?_eq_some_iff.1 hi
    have hnat : (UInt16.ofNat i.toNat).toNat = i.toNat :=
      UInt16.toNat_ofNat_of_lt' (by simp [UInt16.size]; omega)
    rwa [hnat, Int.toNat_of_nonneg hleast]
  · intro h
    refine ⟨v.toNat, intIn?_eq_some_iff.2 ⟨h, by omega, by omega⟩, ?_⟩
    rw [Int.toNat_natCast, UInt16.ofNat_toNat]

theorem int16?_eq_some_iff {j : Json} {m : Int16} : j.int16? = some m ↔ j.Denotes m.toInt := by
  have hleast := m.le_toInt
  have hmost := m.toInt_lt
  rw [int16?, Option.map_eq_some_iff]
  constructor
  · rintro ⟨i, hi, rfl⟩
    obtain ⟨hdenotes, hleast, hmost⟩ := intIn?_eq_some_iff.1 hi
    rwa [Int16.toInt_ofInt_of_le (by omega) (by omega)]
  · intro h
    exact ⟨m.toInt, intIn?_eq_some_iff.2 ⟨h, by omega, by omega⟩, Int16.ofInt_toInt m⟩

theorem int64?_eq_some_iff {j : Json} {t : Int64} : j.int64? = some t ↔ j.Denotes t.toInt := by
  have hleast : Int64.minValue.toInt ≤ t.toInt := t.minValue_le_toInt
  have hmost : t.toInt ≤ Int64.maxValue.toInt := t.toInt_le
  rw [int64?, Option.map_eq_some_iff]
  constructor
  · rintro ⟨i, hi, rfl⟩
    obtain ⟨hdenotes, hleast, hmost⟩ := intIn?_eq_some_iff.1 hi
    have hlow : (-2 ^ 63 : Int) ≤ i := hleast
    have hhigh : i < 2 ^ 63 := Int.lt_of_le_sub_one hmost
    rwa [Int64.toInt_ofInt_of_le hlow hhigh]
  · intro h
    exact ⟨t.toInt, intIn?_eq_some_iff.2 ⟨h, hleast, hmost⟩, Int64.ofInt_toInt t⟩

@[simp] theorem uint16?_int (n : UInt16) : (int n.toNat).uint16? = some n :=
  uint16?_eq_some_iff.2 (denotes_int_iff.2 rfl)

@[simp] theorem int16?_int (i : Int16) : (int i.toInt).int16? = some i :=
  int16?_eq_some_iff.2 (denotes_int_iff.2 rfl)

@[simp] theorem int64?_int (i : Int64) : (int i.toInt).int64? = some i :=
  int64?_eq_some_iff.2 (denotes_int_iff.2 rfl)

@[simp] theorem text?_reread_text (s : String) : (text s).reread.text? = some s :=
  Quoted.text?_reread s

/-- The members of a record are read back by name. -/
theorem named?_rereadNamed (members : List (String × Json)) :
    named? (rereadNamed members) = some (members.map fun m => (m.1, m.2.reread)) := by
  induction members with
  | nil => rfl
  | cons m ms ih =>
    rw [named?, rereadNamed] at ih ⊢
    rw [List.map_cons, List.mapM_cons, ih, Quoted.text?_reread]
    rfl

/-- All items stand for something if they do so one by one. -/
theorem allOf_eq_some_iff {α : Type} {f : Json → Option α} {js : List Json} {xs : List α} :
    allOf f js = some xs ↔ List.Forall₂ (fun x j => f j = some x) xs js := by
  induction js generalizing xs with
  | nil =>
    rw [List.forall₂_nil_right_iff, show allOf f [] = some [] from rfl, Option.some.injEq, eq_comm]
  | cons j js ih =>
    -- The first item has to stand for something, and then the others.
    have hcons : allOf f (j :: js) = (f j).bind fun x => (allOf f js).map (x :: ·) := by
      simp only [allOf, List.mapM_cons, Option.map_eq_bind]
      rfl
    rw [hcons, List.forall₂_cons_right_iff, Option.bind_eq_some_iff]
    constructor
    · rintro ⟨x, hx, htail⟩
      obtain ⟨xs', hxs', rfl⟩ := Option.map_eq_some_iff.1 htail
      exact ⟨x, xs', hx, ih.1 hxs', rfl⟩
    · rintro ⟨x, xs', hx, hxs', rfl⟩
      exact ⟨x, hx, by rw [ih.2 hxs', Option.map_some]⟩

/-- A list of values is read back if each of them is. -/
theorem allOf_map {α : Type} {f : Json → Option α} {toJson : α → Json}
    (h : ∀ x, f (toJson x) = some x) (xs : List α) : allOf f (xs.map toJson) = some xs :=
  allOf_eq_some_iff.2 (List.forall₂_map_right_iff.2 (List.forall₂_same.2 fun x _ => h x))

end Json

/-! ## Requests -/

theorem RollKind.ofJson?_toJson (isNothing : Json → Bool) (k : RollKind) :
    RollKind.ofJson? isNothing k.toJson.reread = some k := by
  rw [toJson, RollKind.ofJson?, reread_text, chosen?, Quoted.text?_reread]
  cases k <;> rfl

namespace Request

theorem faithful_members (room : Nat) (q : Request) : ∀ m ∈ q.members, Faithful room m.2 := by
  have count_lt : q.count.toNat < 65536 := q.count.toNat_lt
  have sides_lt : q.sides.toNat < 65536 := q.sides.toNat_lt
  have le_modifier := q.modifier.le_toInt
  have modifier_lt := q.modifier.toInt_lt
  have hmost : 65536 ≤ Numeral.most64 := by decide
  simp only [members, List.forall_mem_cons, List.not_mem_nil, false_implies, implies_true, and_true]
  refine ⟨faithful_text room _, faithful_int room (by omega), faithful_int room (by omega),
    faithful_int room (by omega), ?_⟩
  cases q.threshold with
  | none => exact faithful_null room
  | some t =>
    have threshold_lt : t.toNat < 65536 := t.toNat_lt
    exact faithful_int room (by omega)

/-- A request is read back among other members with names of their own. -/
theorem ofMembers?_members (isNothing : Json → Bool) (q : Request) (results : Json) :
    ofMembers? isNothing
      ((q.members ++ [("results", results)]).map fun m => (m.1, m.2.reread)) = some q := by
  -- Field by field: the member with its name, then the value that the member holds.
  apply bind_eq_of_eq_some (a := q.kind.toJson.reread) rfl
  apply bind_eq_of_eq_some (RollKind.ofJson?_toJson isNothing q.kind)
  apply bind_eq_of_eq_some (a := int q.count.toNat) rfl
  apply bind_eq_of_eq_some (uint16?_int q.count)
  apply bind_eq_of_eq_some (a := int q.sides.toNat) rfl
  apply bind_eq_of_eq_some (uint16?_int q.sides)
  apply bind_eq_of_eq_some (a := int q.modifier.toInt) rfl
  apply bind_eq_of_eq_some (int16?_int q.modifier)
  apply bind_eq_of_eq_some rfl
  apply bind_eq_of_eq_some (a := q.threshold) ?_ rfl
  cases hthreshold : q.threshold with
  | none => rfl
  | some t =>
    show (int t.toNat).uint16?.map some = some (some t)
    rw [uint16?_int]
    rfl

end Request

/-! ## Outcomes -/

namespace DieResult

theorem faithful_toJson (room : Nat) (d : DieResult) : Faithful room d.toJson := by
  cases d with
  | counted v =>
    have hv : v.toNat < 65536 := v.toNat_lt
    have hmost : 65536 ≤ Numeral.most64 := by decide
    exact faithful_int room (by omega)
  | dropped => exact faithful_text room _
  | keptOut => exact faithful_text room _

/-- A result is read back; the two that do not count go by their names. -/
theorem ofJson?_toJson (room : Nat) (d : DieResult) : ofJson? room d.toJson.reread = some d := by
  rw [ofJson?, if_pos (faithful_toJson room d).isSound]
  cases d with
  | counted v =>
    show (int v.toNat).uint16?.map counted = some (counted v)
    rw [uint16?_int]
    rfl
  | dropped =>
    rw [toJson, reread_text, ofJsonNamed?, chosen?, Quoted.text?_reread]
    · rfl
    · simp
  | keptOut =>
    rw [toJson, reread_text, ofJsonNamed?, chosen?, Quoted.text?_reread]
    · rfl
    · simp

end DieResult

namespace Outcome

theorem faithful_toJson (room : Nat) (o : Outcome) : Faithful (room + 2) o.toJson := by
  have le_total := o.total.le_toInt
  have total_lt := o.total.toInt_lt
  have le_modifier := o.modifier.le_toInt
  have modifier_lt := o.modifier.toInt_lt
  have hmost : 2 ^ 63 ≤ Numeral.most64 := by decide
  have hdice : ∀ j ∈ o.dice.map DieResult.toJson, Faithful room j := by
    intro j hj
    obtain ⟨d, -, rfl⟩ := List.mem_map.1 hj
    exact DieResult.faithful_toJson room d
  refine faithful_record (by simp) ?_
  simp only [List.forall_mem_cons, List.not_mem_nil, false_implies, implies_true, and_true]
  exact ⟨faithful_array hdice, faithful_int _ (by omega), faithful_int _ (by omega)⟩

/-- An outcome is read back from the current shape, which is tried first. -/
theorem ofEitherJson?_toJson (room : Nat) (o : Outcome) :
    ofEitherJson? (room + 2) o.toJson.reread = some o := by
  have hdice : diceOfJson? room (Json.array (o.dice.map DieResult.toJson)).reread = some o.dice := by
    rw [reread_array, List.map_map]
    exact allOf_map (DieResult.ofJson?_toJson room) o.dice
  have hread : ofJson? (room + 2) o.toJson.reread = some o := by
    rw [toJson, reread_record]
    apply bind_eq_of_eq_some (named?_rereadNamed _)
    apply bind_eq_of_eq_some rfl
    apply bind_eq_of_eq_some rfl
    apply bind_eq_of_eq_some rfl
    apply bind_eq_of_eq_some hdice
    apply bind_eq_of_eq_some (int64?_int o.total)
    exact bind_eq_of_eq_some (int16?_int o.modifier) rfl
  -- The older shape is only tried where this one fails.
  rw [ofEitherJson?, if_pos (faithful_toJson room o).isSound, hread]

end Outcome

/-! ## Rolls -/

namespace Roll

theorem faithful_members (room : Nat) (r : Roll) :
    ∀ m ∈ r.request.members ++ [("results", r.outcome.toJson)], Faithful (room + 2) m.2 := by
  intro m hm
  rcases List.mem_append.1 hm with hrequest | hresults
  · exact r.request.faithful_members _ m hrequest
  · obtain rfl := List.mem_singleton.1 hresults
    exact r.outcome.faithful_toJson room

theorem faithful_toJson (room : Nat) (r : Roll) : Faithful (room + 3) r.toJson :=
  faithful_record (by simp [Request.members]) (r.faithful_members room)

/-- A request and its results share one object, whatever shape the results have. -/
theorem ofJson?_members {room : Nat} (q : Request) {results : Json} {o : Outcome}
    (h : Outcome.ofEitherJson? room results.reread = some o) :
    ofJson? (room + 1) (record (q.members ++ [("results", results)])).reread =
      some { request := q, outcome := o } := by
  -- Results that are read were sound, and so is the object that they share.
  have hresults : results.reread.isSound room = true := by
    by_contra hunsound
    rw [Outcome.ofEitherJson?, if_neg hunsound] at h
    cases h
  have hsound : membersSound room (rereadNamed (q.members ++ [("results", results)])) = true := by
    refine membersSound_rereadNamed_iff.2 fun m hm => ?_
    rcases List.mem_append.1 hm with hrequest | hlast
    · exact (q.faithful_members room m hrequest).isSound
    · obtain rfl := List.mem_singleton.1 hlast
      exact hresults
  rw [reread_record]
  apply bind_eq_of_eq_some (named?_rereadNamed _)
  rw [Nat.add_sub_cancel, if_pos hsound]
  apply bind_eq_of_eq_some (Request.ofMembers?_members isNullOrEmpty q results)
  apply bind_eq_of_eq_some rfl
  exact bind_eq_of_eq_some h rfl

/-- A roll is read back. -/
theorem ofJson?_toJson (room : Nat) (r : Roll) : ofJson? (room + 3) r.toJson.reread = some r :=
  ofJson?_members r.request (Outcome.ofEitherJson?_toJson room r.outcome)

end Roll

/-! ## Entries -/

namespace Entry

theorem faithful_toJson (room : Nat) (e : Entry) : Faithful (room + 4) e.toJson := by
  refine faithful_record (by simp) ?_
  simp only [List.forall_mem_cons, List.not_mem_nil, false_implies, implies_true, and_true]
  exact ⟨faithful_text _ _, faithful_text _ _, e.roll.faithful_toJson room⟩

/-- An entry with a proper time is read back if its year is plain, and is no entry
otherwise. -/
theorem ofJson?_toJson (room : Nat) {e : Entry} (h : e.time.IsProper) :
    ofJson? (room + 4) e.toJson.reread = if e.time.HasPlainYear then some e else none := by
  rw [toJson, reread_record]
  apply bind_eq_of_eq_some (named?_rereadNamed _)
  apply bind_eq_of_eq_some rfl
  apply bind_eq_of_eq_some rfl
  apply bind_eq_of_eq_some rfl
  apply bind_eq_of_eq_some (text?_reread_text e.reference.token)
  apply bind_eq_of_eq_some (text?_reread_text _)
  rw [String.toList_ofList]
  by_cases hyear : e.time.HasPlainYear
  · rw [if_pos hyear]
    have htime : Instant.readEntryStamp e.time.entryStamp = some e.time := by
      rw [Instant.readEntryStamp_entryStamp h, if_pos hyear]
    apply bind_eq_of_eq_some htime
    exact bind_eq_of_eq_some (e.roll.ofJson?_toJson room) rfl
  · rw [if_neg hyear]
    have htime : Instant.readEntryStamp e.time.entryStamp = none := by
      rw [Instant.readEntryStamp_entryStamp h, if_neg hyear]
    show (Instant.readEntryStamp e.time.entryStamp).bind _ = none
    rw [htime]
    rfl

/-- Whatever is read as an entry has a proper time. -/
theorem isProper_of_ofParts? {room : Nat} {token time roll : Json} {e : Entry}
    (h : ofParts? room token time roll = some e) : e.time.IsProper := by
  obtain ⟨t, -, h⟩ := Option.bind_eq_some_iff.1 h
  obtain ⟨stamp, -, h⟩ := Option.bind_eq_some_iff.1 h
  obtain ⟨i, hstamp, h⟩ := Option.bind_eq_some_iff.1 h
  obtain ⟨r, -, h⟩ := Option.bind_eq_some_iff.1 h
  obtain rfl := Option.some.inj h
  exact Instant.isProper_of_readEntryStamp hstamp

theorem isProper_of_ofJson? {room : Nat} {j : Json} {e : Entry} (h : ofJson? room j = some e) :
    e.time.IsProper := by
  unfold ofJson? at h
  split at h
  · obtain ⟨ms, -, h⟩ := Option.bind_eq_some_iff.1 h
    obtain ⟨token, -, h⟩ := Option.bind_eq_some_iff.1 h
    obtain ⟨time, -, h⟩ := Option.bind_eq_some_iff.1 h
    obtain ⟨roll, -, h⟩ := Option.bind_eq_some_iff.1 h
    exact isProper_of_ofParts? h
  · exact isProper_of_ofParts? h
  · cases h

end Entry

/-! ## Log files -/

/-- Reading a written log gives its entries back, but for those whose year is not
plain; these are no entries any more. -/
theorem readLog_writtenLog {entries : List Entry} (h : ∀ e ∈ entries, e.time.IsProper) :
    readLog (writtenLog entries) =
      some (entries.map fun e => if e.time.HasPlainYear then some e else none) := by
  have hitems : ∀ j ∈ entries.map Entry.toJson, Faithful 126 j := by
    intro j hj
    obtain ⟨e, -, rfl⟩ := List.mem_map.1 hj
    exact e.faithful_toJson 122
  -- The text is read as the array that was written, and then item by item.
  have hread := readGeneric_written (faithful_array hitems)
  rw [reread_array, List.map_map] at hread
  rw [readLog, writtenLog, hread]
  dsimp only
  rw [List.map_map]
  congr 1
  exact List.map_congr_left fun e he => Entry.ofJson?_toJson 123 (h e he)

theorem isProper_of_readLog {s : List Char} {items : List (Option Entry)} {e : Entry}
    (h : readLog s = some items) (he : some e ∈ items) : e.time.IsProper := by
  unfold readLog at h
  split at h
  · obtain rfl := Option.some.inj h
    obtain ⟨j, -, hj⟩ := List.mem_map.1 he
    exact Entry.isProper_of_ofJson? hj
  · cases h

end ChatDice
