import ChatDice.Proofs.Log.Codec
import ChatDice.Proofs.Storage.Disk
import ChatDice.Storage.Vault

/-! # Log files that are saved and loaded

    What a log file gives back after entries were saved to it.  Saving writes
    every entry, but an entry whose year in UTC is not one of 0 to 9999 is written
    with a stamp that no reader takes, and the next load passes over it.

    - `loadLog_of_saveLog`: entries with plain years are loaded as they were saved.
    - `loadLog_saved_again`: after loading, saving and loading again, the entries
      with plain years are left, and no others.
-/

namespace ChatDice.Disk

/-! ## After saving -/

/-- The file holds the text of the entries after they were saved. -/
theorem read_of_saveLog {d d' : Disk} {path : String} {entries : List Entry}
    (h : d.saveLog path entries = .ok d') :
    d'.read path = .ok (String.ofList (writtenLog entries)) := by
  unfold saveLog at h
  split at h
  · next hwrite =>
    obtain rfl := Except.ok.inj h
    exact read_of_write hwrite
  · cases h

/-- What is loaded from a file that holds an array. -/
theorem loadLog_of_read {d : Disk} {path : String} {s : List Char} {items : List (Option Entry)}
    (hread : d.read path = .ok (String.ofList s)) (hitems : readLog s = some items) :
    d.loadLog path = (items.filterMap id, skipNotices path items) := by
  simp only [loadLog, hread, String.toList_ofList, hitems]

/-- Which entries are loaded depends on the text of the file alone. -/
theorem entries_loadLog (d : Disk) (path : String) :
    (d.loadLog path).1 =
      (((d.text? path).bind fun s => readLog s.toList).getD []).filterMap id := by
  rw [loadLog, text?]
  cases d.read path with
  | error e => cases e <;> rfl
  | ok s =>
    dsimp only
    cases hitems : readLog s.toList with
    | none => simp [Except.toOption, hitems]
    | some items => simp [Except.toOption, hitems]

/-- Of entries that were saved, those with plain years are loaded. -/
theorem loadLog_eq_filter {d d' : Disk} {path : String} {entries : List Entry}
    (hproper : ∀ e ∈ entries, e.time.IsProper) (h : d.saveLog path entries = .ok d') :
    (d'.loadLog path).1 = entries.filter fun e => e.time.HasPlainYear := by
  rw [loadLog_of_read (read_of_saveLog h) (readLog_writtenLog hproper), ← List.filterMap_eq_filter]
  show List.filterMap id (entries.map _) = _
  rw [List.filterMap_map]
  congr 1
  funext e
  by_cases hyear : e.time.HasPlainYear
  · simp [hyear, Option.guard]
  · simp [hyear, Option.guard]

/-- Entries with plain years are loaded as they were saved, all of them and in
order, and there is nothing to say about them. -/
theorem loadLog_of_saveLog {d d' : Disk} {path : String} {entries : List Entry}
    (hproper : ∀ e ∈ entries, e.time.IsProper) (hyear : ∀ e ∈ entries, e.time.HasPlainYear)
    (h : d.saveLog path entries = .ok d') : d'.loadLog path = (entries, []) := by
  have hkept : (entries.map fun e => if e.time.HasPlainYear then some e else none) =
      entries.map some :=
    List.map_congr_left fun e he => if_pos (hyear e he)
  have hnone : ((entries.map some).zipIdx.filter fun item => item.1.isNone) = [] := by
    rw [List.filter_eq_nil_iff]
    rintro ⟨item, k⟩ hmem
    obtain ⟨e, -, rfl⟩ := List.mem_map.1 (List.fst_mem_of_mem_zipIdx hmem)
    simp
  rw [loadLog_of_read (read_of_saveLog h) (readLog_writtenLog hproper), hkept, skipNotices, hnone]
  simp

/-- An entry with a quote, a backslash, control characters and letters beyond ASCII
in its token, a leap second, numbers at their limits and every sort of result. -/
def extremeEntry : Entry where
  reference := ⟨"a\"b\\c/\x01\n\té😀"⟩
  time      := ⟨1483228799, 1500000000⟩
  roll      :=
    { request := ⟨.keepLow, 65535, 0, -32768, some 7⟩
      outcome := ⟨[.counted 65535, .dropped, .keptOut], -9223372036854775808, 32767⟩ }

/-- It comes back from a new log file, twice if it was saved twice. -/
theorem loadLog_of_saveLog_extreme :
    ∃ d', empty.saveLog "rolls.json" [extremeEntry, extremeEntry] = .ok d' ∧
      d'.loadLog "rolls.json" = ([extremeEntry, extremeEntry], []) :=
  ⟨_, rfl, loadLog_of_saveLog (d := empty) (by decide) (by decide +kernel) rfl⟩

/-! ## Loading, saving and loading again -/

/-- Loaded entries have proper times. -/
theorem isProper_of_loadLog {d : Disk} {path : String} {e : Entry}
    (he : e ∈ (d.loadLog path).1) : e.time.IsProper := by
  unfold loadLog at he
  split at he
  · cases he
  · cases he
  · split at he
    · cases he
    · next hread =>
      obtain ⟨item, hitem, rfl⟩ := List.mem_filterMap.1 he
      exact isProper_of_readLog hread hitem

/-- Loading a log file, whatever it holds, and saving what was loaded leaves the
entries with plain years, and so changes nothing exactly if all years are plain. -/
theorem loadLog_saved_again {d d' : Disk} {path : String}
    (h : d.saveLog path (d.loadLog path).1 = .ok d') :
    (d'.loadLog path).1 = ((d.loadLog path).1.filter fun e => e.time.HasPlainYear) ∧
      ((d'.loadLog path).1 = (d.loadLog path).1 ↔
        ∀ e ∈ (d.loadLog path).1, e.time.HasPlainYear) := by
  have hfilter := loadLog_eq_filter (fun _ => isProper_of_loadLog) h
  refine ⟨hfilter, ?_⟩
  rw [hfilter, List.filter_eq_self]
  simp

/-- A file with an entry of the older shape and without an offset, an item that is
no entry, and an entry made in an hour that is in the year 10000 in UTC. -/
def mixedFile : List Char :=
  "[\x7b\"hash\":\"a\",\"time\":\"2023-10-01T12:00:00\",\"roll_data\":".toList ++ roll ++
    "\x7d,1,\x7b\"hash\":\"b\",\"time\":\"9999-12-31T23:59:59-01:00\",\"roll_data\":".toList ++
    roll ++ "\x7d]".toList
where
  /-- Both entries are of one roll. -/
  roll := "\x7b\"type\":\"normal\",\"num_dice\":1,\"sides\":6,\"modifier\":0,".toList ++
    "\"results\":[[3],[3,0]]\x7d".toList

/-- A disk with that file. -/
def mixedDisk : Disk := empty.put ["rolls.json"] (.text (String.ofList mixedFile))

/-- The older entry in that file. -/
def keptEntry : Entry where
  reference := ⟨"a"⟩
  time      := ⟨1696161600, 0⟩
  roll      := { request := .plain 1 6, outcome := .ofFaces [3] 0 }

/-- The entry whose year is 10000 in UTC. -/
def lostEntry : Entry := { keptEntry with reference := ⟨"b"⟩, time := ⟨253402304399, 0⟩ }

theorem loadLog_mixedDisk : (mixedDisk.loadLog "rolls.json").1 = [keptEntry, lostEntry] := by
  have hitems : readLog mixedFile = some [some keptEntry, none, some lostEntry] := by
    decide +kernel
  rw [loadLog_of_read rfl hitems]
  rfl

/-- Loading and saving that file keeps the older entry alone. -/
theorem loadLog_saved_again_mixed :
    ∃ d', mixedDisk.saveLog "rolls.json" (mixedDisk.loadLog "rolls.json").1 = .ok d' ∧
      (d'.loadLog "rolls.json").1 = [keptEntry] := by
  refine ⟨_, rfl, ?_⟩
  rw [(loadLog_saved_again (d := mixedDisk) rfl).1, loadLog_mixedDisk]
  decide +kernel

/-- So not every file whose entries are loaded and saved still has them all. -/
theorem loadLog_saved_again_not_same :
    ¬ ∀ (d d' : Disk) (path : String), d.saveLog path (d.loadLog path).1 = .ok d' →
      (d'.loadLog path).1 = (d.loadLog path).1 := by
  intro same
  -- The two lists differ in the entry of the year 10000.
  have hsame := same mixedDisk _ "rolls.json" rfl
  have hproper : ∀ e ∈ [keptEntry, lostEntry], e.time.IsProper := by decide
  rw [loadLog_mixedDisk] at hsame
  rw [loadLog_eq_filter (d := mixedDisk) hproper rfl] at hsame
  revert hsame
  decide +kernel

end ChatDice.Disk
