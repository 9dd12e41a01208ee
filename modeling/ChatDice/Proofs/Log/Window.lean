import ChatDice.Proofs.Log.Recording
import ChatDice.Proofs.Storage.LogFile
import Mathlib.Data.List.DropRight

/-! # The log as a sliding window

    A log is opened over a store and then recorded to and flushed in any order,
    while saves succeed or fail as they like.  Seen from outside it is a window
    on the sequence of all entries: those that were in the store, and after them
    those of the recordings that succeeded.

    - `SavedAs`, `Archive.givesBack`: what a store holds after entries were saved to it.
    - `Run`: the calls made on a log since it was opened, and what they came to.
    - `WindowInv`: what holds between any two calls, kept by `windowInv_call`.
    - `entries_eq_window`: the entries are the newest ones of the sequence, and
      the store is as it was or as the log was saved to it.
    - `entries_eq_window_not_saved`: a log file need not give back what was saved.
-/

namespace ChatDice

/-! ## Stores -/

/-- What is saved in a store. -/
def contents {S : Type} [Store S] (s : S) : List Entry := (Store.load s).1

/-- A store that holds what was last saved to it, and nothing else. -/
class FaithfulStore (S : Type) [Store S] : Prop where
  contents_of_save : ∀ {s s' : S} {entries : List Entry},
    Store.save s entries = .ok s' → contents s' = entries

instance : FaithfulStore Shelf where
  contents_of_save {s s' entries} h := by
    simp only [Store.save, Shelf.save] at h
    split at h
    · cases h
    · cases h; rfl

/-- A store that was left by saving some entries to it, or one with the same contents. -/
def SavedAs {S : Type} [Store S] (s : S) (entries : List Entry) : Prop :=
  ∃ before after : S, Store.save before entries = .ok after ∧ contents s = contents after

/-- A faithful store has the entries that were saved. -/
theorem contents_of_savedAs {S : Type} [Store S] [FaithfulStore S] {s : S} {entries : List Entry}
    (h : SavedAs s entries) : contents s = entries := by
  obtain ⟨before, after, hsave, same⟩ := h
  rw [same]
  exact FaithfulStore.contents_of_save hsave

/-- What an archive gives back of entries that were saved to it: a shelf all of them, a
log file those with plain years. -/
def Archive.givesBack : Archive → List Entry → List Entry
  | .shelf _, entries => entries
  | .file _,  entries => entries.filter fun e => e.time.HasPlainYear

/-- Whether an archive gives back all of some entries. -/
def Archive.Keeps : Archive → List Entry → Prop
  | .shelf _, _       => True
  | .file _,  entries => ∀ e ∈ entries, e.time.HasPlainYear

/-- What an archive gives back is what was saved exactly if it keeps it. -/
theorem Archive.eq_iff_keeps (a : Archive) {found entries : List Entry}
    (h : found = a.givesBack entries) : found = entries ↔ a.Keeps entries := by
  subst h
  cases a with
  | shelf s => exact iff_of_true rfl trivial
  | file path =>
    rw [givesBack, Keeps, List.filter_eq_self]
    simp only [decide_eq_true_eq]

/-- Every archive keeps entries with plain years. -/
theorem Archive.keeps_of_hasPlainYear (a : Archive) {entries : List Entry}
    (h : ∀ e ∈ entries, e.time.HasPlainYear) : a.Keeps entries := by
  cases a with
  | shelf s => trivial
  | file path => exact h

theorem Vault.contents_file (d : Disk) (path : String) :
    contents (⟨d, .file path⟩ : Vault) = (d.loadLog path).1 := rfl

/-- After entries were saved to a vault its contents are what the archive gives back. -/
theorem Vault.contents_of_save {v v' : Vault} {entries : List Entry}
    (hproper : ∀ e ∈ entries, e.time.IsProper) (h : Store.save v entries = .ok v') :
    contents v' = v.archive.givesBack entries := by
  obtain ⟨disk, archive⟩ := v
  have hvault : Vault.save ⟨disk, archive⟩ entries = .ok v' := h
  cases archive with
  | shelf s =>
    simp only [Vault.save] at hvault
    split at hvault
    · next s' hshelf =>
      cases hvault
      -- What a shelf holds is what was put on it; a file holds what can be read again.
      have hcontents : contents s' = entries := FaithfulStore.contents_of_save hshelf
      exact hcontents
    · cases hvault
  | file path =>
    simp only [Vault.save] at hvault
    split at hvault
    · next d' hfile =>
      cases hvault
      exact Disk.loadLog_eq_filter hproper hfile
    · cases hvault

/-- So a vault that entries were saved to has what an archive gives back. -/
theorem Vault.contents_of_savedAs {v : Vault} {entries : List Entry}
    (hproper : ∀ e ∈ entries, e.time.IsProper) (h : SavedAs v entries) :
    ∃ a : Archive, contents v = a.givesBack entries := by
  obtain ⟨before, after, hsave, hsaved⟩ := h
  exact ⟨before.archive, hsaved.trans (Vault.contents_of_save hproper hsave)⟩

namespace RollLog

/-! ## Calls -/

/-- A log with its store. -/
structure Ledger (S : Type) where
  log   : RollLog
  store : S

/-- A call on a log. -/
inductive Call
  | record (now : Instant) (roll : Roll)
  | flush

/-- What a call came to. -/
inductive Event
  | recorded (e : Entry)
  | notRecorded (error : RecordError)
  | flushed
  | notFlushed (error : SaveError)

/-- Whether the call returned without an error; then it has saved the store. -/
def Event.isOk : Event → Bool
  | recorded _    => true
  | notRecorded _ => false
  | flushed       => true
  | notFlushed _  => false

/-- The entry of a recording that succeeded. -/
def Event.recorded? : Event → Option Entry
  | recorded e => some e
  | _          => none

/-- The entries of the recordings that succeeded, in order. -/
def recordedEntries (events : List Event) : List Entry := events.filterMap Event.recorded?

@[simp] theorem recordedEntries_concat (events : List Event) (ev : Event) :
    recordedEntries (events ++ [ev]) = recordedEntries events ++ ev.recorded?.toList := by
  cases h : ev.recorded? <;> simp [recordedEntries, h]

variable {S : Type} [Store S]

theorem load_fst (s : S) (capacity : Nat) : (load s capacity).1 = ofEntries (contents s) capacity :=
  rfl

/-- Makes a call.  The entry of a recording consists of the reference it returned
and what it was given. -/
def Ledger.call (l : Ledger S) : Call → Event × Ledger S
  | .record now roll =>
    let r := l.log.record l.store now roll
    match r.answer with
    | .ok reference => (.recorded ⟨reference, now, roll⟩, ⟨r.log, r.store⟩)
    | .error e      => (.notRecorded e, ⟨r.log, r.store⟩)
  | .flush =>
    match l.log.flush l.store with
    | .ok s    => (.flushed, { l with store := s })
    | .error e => (.notFlushed e, l)

/-- The calls made since a log was opened over the store `s₀`, by what they came
to, and the log and store after them.  Between two calls the store may change in
any way that keeps its contents: this decides whether the next save succeeds. -/
inductive Run (s₀ : S) (capacity : Nat) : List Event → Ledger S → Prop
  | opened : Run s₀ capacity [] ⟨(load s₀ capacity).1, s₀⟩
  | call {events : List Event} {l : Ledger S} (run : Run s₀ capacity events l) {s : S}
      (same : contents s = contents l.store) (c : Call) :
      Run s₀ capacity (events ++ [(Ledger.call ⟨l.log, s⟩ c).1]) (Ledger.call ⟨l.log, s⟩ c).2

/-- The first call after a log was opened. -/
theorem run_of_call (s₀ : S) (capacity : Nat) (c : Call) :
    Run s₀ capacity [(Ledger.call ⟨(load s₀ capacity).1, s₀⟩ c).1]
      (Ledger.call ⟨(load s₀ capacity).1, s₀⟩ c).2 :=
  .call .opened rfl c

/-- All that a call can do: it fails and leaves entries and store alone, or the
window slides by the recorded entry, or stays, and the store is saved. -/
theorem call_cases (l : Ledger S) (c : Call) :
    ((l.call c).1.isOk = false ∧ (l.call c).1.recorded? = none ∧
      (l.call c).2.log.entries = l.log.entries ∧ (l.call c).2.store = l.store) ∨
    (∃ e, (l.call c).1 = .recorded e ∧ (l.call c).2.log.entries = l.log.slide e ∧
      Store.save l.store (l.log.slide e) = .ok (l.call c).2.store) ∨
    ((l.call c).1 = .flushed ∧ (l.call c).2.log.entries = l.log.entries ∧
      Store.save l.store l.log.entries = .ok (l.call c).2.store) := by
  cases c with
  | record now roll =>
    rcases l.log.record_cases l.store now roll with
      ⟨_, h⟩ | ⟨_, _, _, _, _, h⟩ | ⟨reference, sequence, s', _, hsave, h⟩
    · exact .inl (by simp [Ledger.call, h, Event.isOk, Event.recorded?])
    · exact .inl (by simp [Ledger.call, h, Event.isOk, Event.recorded?])
    · exact .inr (.inl ⟨⟨reference, now, roll⟩, by simp [Ledger.call, h, hsave]⟩)
  | flush =>
    cases h : l.log.flush l.store with
    | error e => exact .inl (by simp [Ledger.call, h, Event.isOk, Event.recorded?])
    | ok s' =>
      -- A flush changes nothing but the store.
      have hcall : l.call .flush = (.flushed, { l with store := s' }) := by
        simp [Ledger.call, h]
      rw [hcall]
      exact .inr (.inr ⟨rfl, rfl, h⟩)

/-- A call that succeeds leaves the store that saving the entries gives. -/
theorem save_of_call {l : Ledger S} {c : Call} (h : (l.call c).1.isOk = true) :
    Store.save l.store (l.call c).2.log.entries = .ok (l.call c).2.store := by
  rcases call_cases l c with ⟨hno, -⟩ | ⟨e, -, hentries, hsave⟩ | ⟨-, hentries, hsave⟩
  · rw [hno] at h
    cases h
  · rwa [hentries]
  · rwa [hentries]

/-- A call that fails leaves entries and store alone. -/
theorem untouched_of_call {l : Ledger S} {c : Call} (h : (l.call c).1.isOk = false) :
    (l.call c).2.log.entries = l.log.entries ∧ (l.call c).2.store = l.store := by
  rcases call_cases l c with ⟨-, -, hentries, hstore⟩ | ⟨e, hev, -⟩ | ⟨hev, -⟩
  · exact ⟨hentries, hstore⟩
  · rw [hev] at h
    cases h
  · rw [hev] at h
    cases h

/-- No call changes the capacity. -/
theorem capacity_call (l : Ledger S) (c : Call) :
    (l.call c).2.log.capacity = l.log.capacity := by
  cases c with
  | record now roll =>
    have h := capacity_record l.log l.store now roll
    simp only [Ledger.call]
    split <;> exact h
  | flush =>
    simp only [Ledger.call]
    split <;> rfl

/-! ## The window -/

/-- The window slides: the newest entries of a longer sequence are those of the
shorter one, less the oldest if the window is full, and the new entry. -/
theorem slide_rtake {log : RollLog} {entries : List Entry} (e : Entry)
    (h : log.entries = entries.rtake log.capacity) :
    log.slide e = (entries ++ [e]).rtake log.capacity := by
  -- The capacity is not zero, so the new entry itself is in the window.
  obtain ⟨c, hc⟩ : ∃ c, log.capacity = c + 1 :=
    Nat.exists_eq_add_one_of_ne_zero (Nat.ne_of_gt log.capacity_pos)
  rw [hc, List.rtake_concat_succ, slide]
  congr 1
  rw [h, hc]
  simp only [List.rtake, List.length_drop]
  split
  · next full =>
    rw [List.tail_drop]
    congr 1
    omega
  · next room =>
    congr 1
    omega

/-- What holds between any two calls on a log that was opened with some contents
and a capacity: the entries are a window on all that was recorded, and the store
is untouched until a call succeeds and from then on as the log was saved to it. -/
structure WindowInv (loaded : List Entry) (capacity : Nat) (events : List Event)
    (l : Ledger S) : Prop where
  capacity_eq : l.log.capacity = capacity
  entries_eq  : l.log.entries = (loaded ++ recordedEntries events).rtake capacity
  untouched   : (∀ ev ∈ events, ev.isOk = false) → contents l.store = loaded
  up_to_date  : (∃ ev ∈ events, ev.isOk = true) → SavedAs l.store l.log.entries

theorem windowInv_opened (s₀ : S) (capacity : Nat) :
    WindowInv (contents s₀) (max capacity 1) [] ⟨(load s₀ capacity).1, s₀⟩ where
  capacity_eq := rfl
  entries_eq  := by simp [load_fst, ofEntries, recordedEntries, List.rtake]
  untouched _ := rfl
  up_to_date  := by simp

/-- Every call keeps the invariant, whatever the store does. -/
theorem windowInv_call {loaded : List Entry} {capacity : Nat}
    {events : List Event} {l : Ledger S} (inv : WindowInv loaded capacity events l) {s : S}
    (same : contents s = contents l.store) (c : Call) :
    WindowInv loaded capacity (events ++ [(Ledger.call ⟨l.log, s⟩ c).1])
      (Ledger.call ⟨l.log, s⟩ c).2 := by
  have hcap := (capacity_call ⟨l.log, s⟩ c).trans inv.capacity_eq
  rcases call_cases ⟨l.log, s⟩ c with
    ⟨hok, hnone, hentries, hstore⟩ | ⟨e, hev, hentries, hsave⟩ | ⟨hev, hentries, hsave⟩
  · -- The call failed: the store is the one the call found.
    refine ⟨hcap, ?_, ?_, ?_⟩
    · simp [hentries, inv.entries_eq, hnone]
    · intro h
      rw [hstore, same]
      exact inv.untouched fun ev hmem => h ev (by simp [hmem])
    · intro h
      obtain ⟨ev, hmem, hev⟩ := h
      have hbefore : ev ∈ events := by
        rcases List.mem_append.1 hmem with hbefore | hlast
        · exact hbefore
        · rw [List.mem_singleton.1 hlast, hok] at hev
          cases hev
      obtain ⟨before, after, hsave, hsaved⟩ := inv.up_to_date ⟨ev, hbefore, hev⟩
      rw [hstore, hentries]
      exact ⟨before, after, hsave, same.trans hsaved⟩
  · -- An entry was recorded.
    refine ⟨hcap, ?_, ?_, ?_⟩
    · have hbefore := inv.entries_eq
      rw [← inv.capacity_eq] at hbefore
      have hwindow := slide_rtake e hbefore
      rw [hentries, hwindow, inv.capacity_eq, hev]
      simp [Event.recorded?]
    · intro h
      have := h (.recorded e) (by simp [hev])
      cases this
    · intro _
      exact ⟨s, _, save_of_call (by rw [hev]; rfl), rfl⟩
  · -- The log was saved again.
    refine ⟨hcap, ?_, ?_, ?_⟩
    · simp [hentries, inv.entries_eq, hev, Event.recorded?]
    · intro h
      have := h .flushed (by simp [hev])
      cases this
    · intro _
      exact ⟨s, _, save_of_call (by rw [hev]; rfl), rfl⟩

theorem windowInv_of_run {s₀ : S} {capacity : Nat} {events : List Event}
    {l : Ledger S} (run : Run s₀ capacity events l) :
    WindowInv (contents s₀) (max capacity 1) events l := by
  induction run with
  | opened => exact windowInv_opened s₀ capacity
  | call _ same c ih => exact windowInv_call ih same c

/-- **A log is a sliding window.**  After any calls on a log over any store, its entries are
the newest of those it was opened with and those recorded since; until a call succeeds
the store has the contents it had, from then on it is the store to which just the
entries of the log were saved; and a call that fails changes neither entries nor store.
So a store that holds what was saved to it has the entries of the log.  A vault has those
that the archive they were saved to gives back, which is the one that the last call that
succeeded found: these are the entries of the log exactly if the archive is a shelf or all
years are plain. -/
theorem entries_eq_window (capacity : Nat) (events : List Event) :
    (∀ {S : Type} [Store S] {s₀ : S} {l : Ledger S}, Run s₀ capacity events l →
      l.log.entries = (contents s₀ ++ recordedEntries events).rtake (max capacity 1) ∧
      ((∀ ev ∈ events, ev.isOk = false) → contents l.store = contents s₀) ∧
      ((∃ ev ∈ events, ev.isOk = true) → SavedAs l.store l.log.entries) ∧
      (FaithfulStore S → (∃ ev ∈ events, ev.isOk = true) → contents l.store = l.log.entries) ∧
      ∀ (s : S) (c : Call),
        let after := Ledger.call ⟨l.log, s⟩ c
        (after.1.isOk = false → after.2.log.entries = l.log.entries ∧ after.2.store = s) ∧
        (after.1.isOk = true → Store.save s after.2.log.entries = .ok after.2.store)) ∧
    ∀ {v₀ : Vault} {l : Ledger Vault}, Run v₀ capacity events l →
      ((∃ ev ∈ events, ev.isOk = true) → (∀ e ∈ l.log.entries, e.time.IsProper) →
        (∃ a : Archive, contents l.store = a.givesBack l.log.entries ∧
          (contents l.store = l.log.entries ↔ a.Keeps l.log.entries)) ∧
        ((∀ e ∈ l.log.entries, e.time.HasPlainYear) → contents l.store = l.log.entries)) ∧
      ∀ (v : Vault) (c : Call),
        let after := Ledger.call ⟨l.log, v⟩ c
        after.1.isOk = true → (∀ e ∈ after.2.log.entries, e.time.IsProper) →
          contents after.2.store = v.archive.givesBack after.2.log.entries ∧
          (contents after.2.store = after.2.log.entries ↔
            v.archive.Keeps after.2.log.entries) := by
  constructor
  · intro S _ s₀ l run
    have inv := windowInv_of_run run
    refine ⟨inv.entries_eq, inv.untouched, inv.up_to_date, ?_, ?_⟩
    · intro _ hok
      exact contents_of_savedAs (inv.up_to_date hok)
    · intro s c
      exact ⟨untouched_of_call, save_of_call⟩
  · intro v₀ l run
    constructor
    · intro hok hproper
      obtain ⟨a, hcontents⟩ :=
        Vault.contents_of_savedAs hproper ((windowInv_of_run run).up_to_date hok)
      have hiff := a.eq_iff_keeps hcontents
      refine ⟨⟨a, hcontents, hiff⟩, ?_⟩
      intro hplain
      exact hiff.2 (a.keeps_of_hasPlainYear hplain)
    · -- The archive of a call is that of the vault it finds.
      intro v c after hok hproper
      have hcontents := Vault.contents_of_save hproper (save_of_call hok)
      exact ⟨hcontents, v.archive.eq_iff_keeps hcontents⟩

/-- A logged roll of one six-sided die. -/
def sampleEntry (token : String) : Entry := ⟨⟨token⟩, ⟨0, 0⟩, ⟨.plain 1 6, .ofFaces [3] 0⟩⟩

/-- A vault whose log file has two entries, the newer one of the year 10000. -/
def mixedVault : Vault := ⟨Disk.mixedDisk, .file "rolls.json"⟩

theorem load_mixedVault (capacity : Nat) :
    (load mixedVault capacity).1 = ofEntries [Disk.keptEntry, Disk.lostEntry] capacity := by
  rw [load_fst, mixedVault, Vault.contents_file, Disk.loadLog_mixedDisk]

/-- The recording of one more roll, in a year that is plain. -/
def sampleCall : Call := .record ⟨5, 0⟩ (sampleEntry "d").roll

/-- Three saved entries seen through a window of two; a recording that cannot be
saved, and the same recording once the shelf lets itself be saved to.  The same
recording over a log file and a window of one. -/
theorem entries_eq_window_refused_then_recorded :
    (let saved := [sampleEntry "a", sampleEntry "b", sampleEntry "c"]
    let shelf : Shelf := .ofEntries saved true
    let first := Ledger.call ⟨(load shelf 2).1, shelf⟩ sampleCall
    let second := Ledger.call ⟨first.2.log, { first.2.store with refuses := false }⟩ sampleCall
    first.1.isOk = false ∧ second.1.isOk = true ∧
      second.2.log.entries = (saved ++ recordedEntries [first.1, second.1]).rtake 2 ∧
      contents second.2.store = second.2.log.entries ∧
      second.2.log.entries.head? = some (sampleEntry "c")) ∧
    let only := Ledger.call ⟨(load mixedVault 1).1, mixedVault⟩ sampleCall
    only.1.isOk = true ∧ only.2.log.entries.length = 1 ∧
      contents only.2.store = only.2.log.entries := by
  constructor
  · intro saved shelf first second
    have hfirst : first.1.isOk = false := by decide +kernel
    have hsecond : second.1.isOk = true := by decide +kernel
    have same : ∀ s : Shelf, contents { s with refuses := false } = contents s := fun _ => rfl
    have run : Run shelf 2 [first.1, second.1] second.2 :=
      .call (.call .opened rfl sampleCall) (same first.2.store) sampleCall
    obtain ⟨hentries, -, -, hsaved, -⟩ := (entries_eq_window 2 _).1 run
    exact ⟨hfirst, hsecond, hentries, hsaved inferInstance ⟨second.1, by simp, hsecond⟩,
      by decide +kernel⟩
  · intro only
    have honly : only = Ledger.call ⟨(load mixedVault 1).1, mixedVault⟩ sampleCall := rfl
    clear_value only
    have run : Run mixedVault 1 [only.1] only.2 := by rw [honly]; exact run_of_call _ _ _
    rw [load_mixedVault] at honly
    have hok : only.1.isOk = true := by rw [honly]; decide +kernel
    have hproper : ∀ e ∈ only.2.log.entries, e.time.IsProper := by rw [honly]; decide +kernel
    have hplain : ∀ e ∈ only.2.log.entries, e.time.HasPlainYear := by rw [honly]; decide +kernel
    have hvault := ((entries_eq_window 1 _).2 run).1 ⟨_, List.mem_singleton_self _, hok⟩ hproper
    have hlength : only.2.log.entries.length = 1 := by rw [honly]; decide +kernel
    exact ⟨hok, hlength, hvault.2 hplain⟩

/-- But a log over a file is not always found again: of the two entries that are saved
here, the one of the year 10000 is not loaded. -/
theorem entries_eq_window_not_saved :
    ¬ ∀ (v₀ : Vault) (capacity : Nat) (events : List Event) (l : Ledger Vault),
      Run v₀ capacity events l → (∃ ev ∈ events, ev.isOk = true) →
        contents l.store = l.log.entries := by
  intro same
  obtain ⟨only, honly⟩ :
      ∃ only, only = Ledger.call ⟨(load mixedVault 2).1, mixedVault⟩ sampleCall := ⟨_, rfl⟩
  have run : Run mixedVault 2 [only.1] only.2 := by rw [honly]; exact run_of_call _ _ _
  rw [load_mixedVault] at honly
  have hok : only.1.isOk = true := by rw [honly]; decide +kernel
  have hproper : ∀ e ∈ only.2.log.entries, e.time.IsProper := by rw [honly]; decide +kernel
  have hlost : Disk.lostEntry ∈ only.2.log.entries := by rw [honly]; decide +kernel
  have hsave : Store.save mixedVault only.2.log.entries = .ok only.2.store := by
    rw [honly] at hok ⊢
    exact save_of_call hok
  have hsame := same mixedVault 2 _ _ run ⟨_, List.mem_singleton_self _, hok⟩
  -- A file gives back plain years alone.
  rw [Vault.contents_of_save hproper hsave] at hsame
  have hplain := List.filter_eq_self.1 hsame Disk.lostEntry hlost
  revert hplain
  decide +kernel

end RollLog

end ChatDice
