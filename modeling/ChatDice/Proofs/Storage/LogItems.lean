import ChatDice.Proofs.Json.Grammar
import ChatDice.Proofs.Storage.LogFile
import Mathlib.Data.List.Basic

/-! # The items of a log file

    A log file that is a JSON array is loaded item by item: what is no entry is passed
    over, whatever else it is.  But before that all of the file is taken as generic
    values, and one item that makes no sense as such costs all the entries: a number
    beyond double precision, a string with half a surrogate pair, too deep a nesting.

    - `arrayText`: the text of an array from those of its items.
    - `loadedFrom`: the entries that are loaded from a text.
    - `loadedFrom_arrayText`: from an array they are loaded item by item, or not at all.
    - `loadedFrom_items`: what this means for the items one by one, and for an item
      that is no entry.
-/

namespace ChatDice

open Json

/-! ## Texts of log files -/

/-- The text of an array whose items have these texts. -/
def arrayText (texts : List (List Char)) : List Char :=
  '[' :: ([','].intercalate texts ++ [']'])

/-- The entries that are loaded from a text. -/
def loadedFrom (s : List Char) : List Entry := ((readLog s).getD []).filterMap id

/-- Wherever the log file is. -/
theorem loadLog_eq_loadedFrom {d : Disk} {path : String} {s : List Char}
    (h : d.text? path = some (String.ofList s)) : (d.loadLog path).1 = loadedFrom s := by
  rw [Disk.entries_loadLog, h, Option.bind_some, String.toList_ofList, loadedFrom]

/-- An item of a log file, with the text it has there. -/
abbrev Item := Json × List Char

/-- Whether an item makes sense as a generic value, inside the array that it is in. -/
def Item.IsSound (p : Item) : Prop := p.1.isSound (deepest - 1) = true

instance (p : Item) : Decidable p.IsSound := inferInstanceAs (Decidable (_ = true))

/-- The entry that an item stands for. -/
def Item.entry? (p : Item) : Option Entry := Entry.ofJson? deepest p.1.lastWins

variable {items : List Item}

/-- The items make up the text of an array. -/
theorem jsonText_arrayText (h : ∀ p ∈ items, JsonText p.1 p.2) :
    JsonText (array (items.map Prod.fst)) (arrayText (items.map Prod.snd)) := by
  match items with
  | [] => exact .emptyArray [] (by simp)
  | p :: ps => exact .array (p :: ps) (List.cons_ne_nil _ _) h

/-! ## Loading -/

theorem isSound_array_iff :
    (array (items.map Prod.fst)).isSound deepest = true ↔ ∀ p ∈ items, p.IsSound := by
  rw [Json.isSound, Bool.and_eq_true, areSound_iff, List.forall_mem_map]
  constructor
  · intro h
    exact h.2
  · intro h
    exact ⟨by decide, h⟩

/-- The array of a log file is read if all its items make sense. -/
theorem readLog_arrayText (h : ∀ p ∈ items, JsonText p.1 p.2) :
    readLog (arrayText (items.map Prod.snd)) =
      if ∀ p ∈ items, p.IsSound then some (items.map Item.entry?) else none := by
  have hread := read_of_jsonText (jsonText_arrayText h)
  rw [readLog, readGeneric, hread]
  dsimp only
  -- The array itself is one level of nesting, and no more is asked of it.
  by_cases hsound : ∀ p ∈ items, p.IsSound
  · rw [if_pos (isSound_array_iff.2 hsound), if_pos hsound, Json.lastWins, itemsLastWins_eq_map]
    dsimp only
    rw [List.map_map, List.map_map]
    rfl
  · rw [if_neg (mt isSound_array_iff.1 hsound), if_neg hsound]

/-- The entries of an array are those of its items, or none. -/
theorem loadedFrom_arrayText (h : ∀ p ∈ items, JsonText p.1 p.2) :
    loadedFrom (arrayText (items.map Prod.snd)) =
      if ∀ p ∈ items, p.IsSound then items.filterMap Item.entry? else [] := by
  rw [loadedFrom, readLog_arrayText h]
  split
  · rw [Option.getD_some, List.filterMap_map]
    rfl
  · rfl

/-- What is loaded if an item is the only one. -/
theorem loadedFrom_single {p : Item} (h : JsonText p.1 p.2) :
    loadedFrom (arrayText [p.2]) = if p.IsSound then p.entry?.toList else [] := by
  have htexts : ∀ q ∈ [p], JsonText q.1 q.2 := List.forall_mem_singleton.2 h
  have hsingle := loadedFrom_arrayText htexts
  rw [List.map_singleton] at hsingle
  rw [hsingle]
  simp only [List.forall_mem_singleton]
  split
  · cases hentry : p.entry? with
    | none => simp [hentry]
    | some e => simp [hentry]
  · rfl

/-! ## Item by item -/

/-- If all items make sense, each of them gives what it gives alone. -/
theorem filterMap_entry? (h : ∀ p ∈ items, JsonText p.1 p.2) (hsound : ∀ p ∈ items, p.IsSound) :
    items.filterMap Item.entry? = items.flatMap fun p => loadedFrom (arrayText [p.2]) := by
  rw [List.filterMap_eq_flatMap_toList]
  refine List.flatMap_congr fun p hp => ?_
  rw [loadedFrom_single (h p hp), if_pos (hsound p hp)]

/-- An item that makes sense and is no entry changes nothing. -/
theorem loadedFrom_insert {before after : List Item} {p : Item}
    (h : ∀ q ∈ before ++ p :: after, JsonText q.1 q.2) (hsound : p.IsSound)
    (hnone : loadedFrom (arrayText [p.2]) = []) :
    loadedFrom (arrayText ((before ++ p :: after).map Prod.snd)) =
      loadedFrom (arrayText ((before ++ after).map Prod.snd)) := by
  have hrest : ∀ q ∈ before ++ after, JsonText q.1 q.2 := by
    intro q hq
    refine h q ?_
    rw [List.mem_append, List.mem_cons]
    rcases List.mem_append.1 hq with hq | hq
    · exact .inl hq
    · exact .inr (.inr hq)
  -- One more sound item does not decide whether the array is read.
  have hsame : (∀ q ∈ before ++ p :: after, q.IsSound) ↔ ∀ q ∈ before ++ after, q.IsSound := by
    simp only [List.forall_mem_append, List.forall_mem_cons, hsound, true_and]
  have hentry : p.entry? = none := by
    rw [loadedFrom_single (h p (by simp)), if_pos hsound] at hnone
    cases hp : p.entry? with
    | none => rfl
    | some e =>
      rw [hp] at hnone
      cases hnone
  rw [loadedFrom_arrayText h, loadedFrom_arrayText hrest]
  simp only [hsame, List.filterMap_append, List.filterMap_cons, hentry]

/-- **One senseless item costs all entries; any other bad one costs nothing.**  For an
array of JSON texts the entries are those of its items, each loaded as if it were the
only one, if all items make sense as generic values; else there are none at all.  So
loading goes item by item exactly if all make sense, or there is no entry to lose. -/
theorem loadedFrom_items (h : ∀ p ∈ items, JsonText p.1 p.2) :
    (∀ (s : List Char) (d : Disk) (path : String), d.text? path = some (String.ofList s) →
      (d.loadLog path).1 = loadedFrom s) ∧
    loadedFrom (arrayText (items.map Prod.snd)) =
      (if ∀ p ∈ items, p.IsSound then items.flatMap fun p => loadedFrom (arrayText [p.2])
        else []) ∧
    (loadedFrom (arrayText (items.map Prod.snd)) =
        (items.flatMap fun p => loadedFrom (arrayText [p.2])) ↔
      (∀ p ∈ items, p.IsSound) ∨ ∀ p ∈ items, loadedFrom (arrayText [p.2]) = []) ∧
    ∀ (before after : List Item) (p : Item), items = before ++ p :: after → p.IsSound →
      loadedFrom (arrayText [p.2]) = [] →
      loadedFrom (arrayText (items.map Prod.snd)) =
        loadedFrom (arrayText ((before ++ after).map Prod.snd)) := by
  have hloaded := loadedFrom_arrayText h
  refine ⟨fun s d path => loadLog_eq_loadedFrom, ?_, ?_, ?_⟩
  · rw [hloaded]
    split
    · next hsound => exact filterMap_entry? h hsound
    · rfl
  · constructor
    · intro hsame
      by_cases hsound : ∀ p ∈ items, p.IsSound
      · exact .inl hsound
      · -- Nothing is loaded from the whole, so nothing from any part of it.
        rw [hloaded, if_neg hsound] at hsame
        exact .inr (List.flatMap_eq_nil_iff.1 hsame.symm)
    · intro hcases
      rw [hloaded]
      split
      · next hsound => exact filterMap_entry? h hsound
      · next hsound =>
        have hempty := hcases.resolve_left hsound
        exact (List.flatMap_eq_nil_iff.2 hempty).symm
  · intro before after p hitems hsound hnone
    subst hitems
    exact loadedFrom_insert h hsound hnone

/-- A logged roll, as it is written. -/
def keptItem : Item := writtenItem Disk.keptEntry.toJson

/-- A record that looks like an entry but has no time and no roll. -/
def misfit : Json := record [("hash", text "broken"), ("time", text "yesterday")]

def misfitItem : Item := writtenItem misfit

theorem faithful_misfit (room : Nat) : Faithful (room + 1) misfit := by
  refine faithful_record (by simp) ?_
  simp only [List.forall_mem_cons, List.not_mem_nil, false_implies, implies_true, and_true]
  exact ⟨faithful_text _ _, faithful_text _ _⟩

theorem jsonText_keptItem : JsonText keptItem.1 keptItem.2 :=
  jsonText_written _ (Disk.keptEntry.faithful_toJson 0).wellFormed

theorem jsonText_misfitItem : JsonText misfitItem.1 misfitItem.2 :=
  jsonText_written _ (faithful_misfit 0).wellFormed

theorem loadedFrom_keptItem : loadedFrom (arrayText [keptItem.2]) = [Disk.keptEntry] := by
  have hsound : keptItem.IsSound := (Disk.keptEntry.faithful_toJson 122).isSound
  have hentry : keptItem.entry? = some Disk.keptEntry := by
    rw [Item.entry?, keptItem, writtenItem, (Disk.keptEntry.faithful_toJson 0).lastWins]
    exact (Entry.ofJson?_toJson 123 (by decide)).trans (if_pos (by decide))
  rw [loadedFrom_single jsonText_keptItem, if_pos hsound, hentry]
  rfl

theorem loadedFrom_misfitItem : loadedFrom (arrayText [misfitItem.2]) = [] := by
  have hentry : misfitItem.entry? = none := by decide
  rw [loadedFrom_single jsonText_misfitItem, hentry]
  simp

/-- The record without a roll costs nothing. -/
theorem loadedFrom_items_misfit :
    (∀ p ∈ [misfitItem, keptItem], JsonText p.1 p.2) ∧
      loadedFrom (arrayText [misfitItem.2, keptItem.2]) = [Disk.keptEntry] := by
  have htexts : ∀ p ∈ [misfitItem, keptItem], JsonText p.1 p.2 := by
    simp only [List.forall_mem_cons, List.not_mem_nil, false_implies, implies_true, and_true]
    exact ⟨jsonText_misfitItem, jsonText_keptItem⟩
  obtain ⟨-, -, -, hinsert⟩ := loadedFrom_items htexts
  have hsame := hinsert [] [keptItem] misfitItem rfl (faithful_misfit 125).isSound
    loadedFrom_misfitItem
  exact ⟨htexts, hsame.trans loadedFrom_keptItem⟩

/-- The number 1e999, which is JSON. -/
def hugeItem : Item :=
  (.number ⟨false, ['1'], [], some (false, ['9', '9', '9'])⟩, ['1', 'e', '9', '9', '9'])

theorem jsonText_hugeItem : JsonText hugeItem.1 hugeItem.2 := by
  have hnines : ∀ c ∈ ['9', '9', '9'], c.isDigit = true := by simp
  exact .number ⟨⟨by simp, by simp, by simp, by simp, by simp, by simp⟩, _,
    .some 'e' [] (by simp) (by simp) hnines (by simp), rfl⟩

/-- The number 1e999 costs the roll that stands in front of it. -/
theorem loadedFrom_items_not_each :
    ¬ ∀ items : List Item, (∀ p ∈ items, JsonText p.1 p.2) →
      loadedFrom (arrayText (items.map Prod.snd)) =
        items.flatMap fun p => loadedFrom (arrayText [p.2]) := by
  intro h
  have htexts : ∀ p ∈ [keptItem, hugeItem], JsonText p.1 p.2 := by
    simp only [List.forall_mem_cons, List.not_mem_nil, false_implies, implies_true, and_true]
    exact ⟨jsonText_keptItem, jsonText_hugeItem⟩
  have huge : ¬ hugeItem.IsSound := by decide
  have hwhole := h [keptItem, hugeItem] htexts
  -- Alone the first item is loaded; the whole array is not read.
  have hnot : ¬ ∀ p ∈ [keptItem, hugeItem], p.IsSound := by
    intro hall
    exact huge (hall hugeItem (by simp))
  rw [loadedFrom_arrayText htexts, if_neg hnot, List.flatMap_cons, loadedFrom_keptItem] at hwhole
  cases hwhole

end ChatDice
