import ChatDice.Proofs.Log.Window
import Mathlib.Data.List.Nodup

/-! # References identify entries

    A reference is handed out only if no entry of the log has it, so no two entries
    ever share one, however often saves fail and whatever the clock shows.  What a
    reference stands for then never changes: its entry leaves the log only when it
    is the oldest one and a new entry takes its place.

    - `Distinct`: the invariant, kept by `distinct_call`.
    - `Later`: what comes after a log by calls, with the entries they evicted.
    - `lookup?_of_later`: a request that is found is found until its entry is evicted.
    - `lookup?_of_evicted?`: from then on it is not found.
    - `references_of_run`: all of this for every run.
-/

namespace ChatDice.RollLog

/-- No two entries have the same reference. -/
def Distinct (entries : List Entry) : Prop := (entries.map (·.reference)).Nodup

instance (entries : List Entry) : Decidable (Distinct entries) :=
  inferInstanceAs (Decidable (List.Nodup _))

/-! ## Finding entries -/

/-- The first entry with a reference is the only one. -/
theorem get?_of_mem {log : RollLog} {e : Entry} (hdistinct : Distinct log.entries)
    (he : e ∈ log.entries) : log.get? e.reference = some e := by
  cases hfound : log.get? e.reference with
  | none => exact absurd rfl (get?_eq_none_iff.1 hfound e he)
  | some e' =>
    have hmem : e' ∈ log.entries := List.mem_of_find?_eq_some hfound
    have hreference : e'.reference = e.reference := by simpa using List.find?_some hfound
    rw [List.inj_on_of_nodup_map hdistinct hmem he hreference]

theorem lookup?_iff {log : RollLog} (hdistinct : Distinct log.entries) {r : Reference}
    {q : Request} :
    log.lookup? r = some q ↔ ∃ e ∈ log.entries, e.reference = r ∧ e.roll.request = q := by
  constructor
  · exact exists_mem_of_lookup?
  · intro h
    obtain ⟨e, he, hreference, hq⟩ := h
    subst hreference
    rw [lookup?, get?_of_mem hdistinct he, Option.map_some, hq]

/-! ## One call -/

/-- The window slides over an entry whose reference is new. -/
theorem distinct_slide {log : RollLog} {e : Entry} (hdistinct : Distinct log.entries)
    (hfresh : ∀ e' ∈ log.entries, e'.reference ≠ e.reference) : Distinct (log.slide e) := by
  -- With or without the oldest entry, those kept were distinct and have other references.
  have hkept : ∀ kept, kept.Sublist log.entries → Distinct (kept ++ [e]) := by
    intro kept hsub
    unfold Distinct
    rw [List.map_append, List.nodup_append']
    refine ⟨hdistinct.sublist (hsub.map _), List.nodup_singleton _, ?_⟩
    intro r hr hr'
    obtain ⟨e', he', hreference⟩ := List.mem_map.1 hr
    rw [List.map_singleton, List.mem_singleton] at hr'
    exact hfresh e' (hsub.subset he') (hreference.trans hr')
  unfold slide
  by_cases hfull : log.capacity ≤ log.entries.length
  · rw [if_pos hfull]
    exact hkept _ (List.tail_sublist _)
  · rw [if_neg hfull]
    exact hkept _ (List.Sublist.refl _)

theorem distinct_ofEntries {entries : List Entry} (h : Distinct entries) (capacity : Nat) :
    Distinct (ofEntries entries capacity).entries :=
  h.sublist ((List.drop_sublist _ _).map _)

variable {S : Type} [Store S]

/-- An entry is recorded under a reference that no entry of the log has, not even the
one that makes room for it. -/
theorem fresh_of_recorded (l : Ledger S) (c : Call) {e : Entry}
    (h : (l.call c).1 = .recorded e) : ∀ e' ∈ l.log.entries, e'.reference ≠ e.reference := by
  cases c with
  | record now roll =>
    unfold Ledger.call at h
    cases hanswer : (l.log.record l.store now roll).answer with
    | error error =>
      simp only [hanswer] at h
      cases h
    | ok r =>
      simp only [hanswer] at h
      cases h
      -- The reference was looked for before any entry made room.
      obtain ⟨sequence, href⟩ := nextReference_of_recorded hanswer
      exact nextReference_fresh href
  | flush =>
    unfold Ledger.call at h
    cases hflush : l.log.flush l.store with
    | error error =>
      simp only [hflush] at h
      cases h
    | ok s =>
      simp only [hflush] at h
      cases h

/-- No call makes two entries share a reference. -/
theorem distinct_call (l : Ledger S) (c : Call) (hdistinct : Distinct l.log.entries) :
    Distinct (l.call c).2.log.entries := by
  rcases call_cases l c with ⟨-, -, hentries, -⟩ | ⟨e, hev, hentries, -⟩ | ⟨-, hentries, -⟩
  · rwa [hentries]
  · rw [hentries]
    exact distinct_slide hdistinct (fresh_of_recorded _ _ hev)
  · rwa [hentries]

/-- The entry that a call evicts: the oldest one, if an entry is recorded in a full
log. -/
def Ledger.evicted? (l : Ledger S) (c : Call) : Option Entry :=
  match (l.call c).1 with
  | .recorded _ =>
    if l.log.capacity ≤ l.log.entries.length then l.log.entries.head? else none
  | _           => none

/-- The entry of a recording that succeeds in a full log takes the place of the oldest one. -/
theorem evicted?_eq_some {l : Ledger S} {c : Call} {e : Entry} (h : l.evicted? c = some e) :
    ∃ new newer, (l.call c).1 = .recorded new ∧ l.log.entries = e :: newer ∧
      (l.call c).2.log.entries = newer ++ [new] := by
  unfold Ledger.evicted? at h
  rcases call_cases l c with ⟨-, hnone, -⟩ | ⟨new, hev, hentries, -⟩ | ⟨hev, -⟩
  · cases hev : (l.call c).1 with
    | recorded new =>
      rw [hev] at hnone
      cases hnone
    | notRecorded _ | flushed | notFlushed _ =>
      rw [hev] at h
      cases h
  · rw [hev] at h
    dsimp only at h
    by_cases hfull : l.log.capacity ≤ l.log.entries.length
    · rw [if_pos hfull] at h
      -- A full log has an oldest entry, and that is the one that makes room.
      obtain ⟨newer, hlog⟩ := List.head?_eq_some_iff.1 h
      refine ⟨new, newer, hev, hlog, ?_⟩
      rw [hentries, slide, if_pos hfull, hlog, List.tail_cons]
    · rw [if_neg hfull] at h
      cases h
  · rw [hev] at h
    cases h

/-- An entry that is evicted was found before, and is not found any more. -/
theorem lookup?_of_evicted? (l : Ledger S) (c : Call) (hdistinct : Distinct l.log.entries)
    {e : Entry} (h : l.evicted? c = some e) :
    e ∈ l.log.entries ∧ (l.call c).2.log.lookup? e.reference = none := by
  obtain ⟨new, newer, hev, hlog, hentries⟩ := evicted?_eq_some h
  have he : e ∈ l.log.entries := by
    rw [hlog]
    exact List.mem_cons_self
  refine ⟨he, ?_⟩
  rw [lookup?, Option.map_eq_none_iff, get?_eq_none_iff, hentries]
  intro e' he'
  rcases List.mem_append.1 he' with hnewer | hnew
  · rw [Distinct, hlog, List.map_cons, List.nodup_cons] at hdistinct
    -- The newer entries differ from the oldest one in reference.
    intro hreference
    exact hdistinct.1 (hreference ▸ List.mem_map_of_mem hnewer)
  · -- So does the new entry, whose reference nothing in the log had.
    rw [List.mem_singleton.1 hnew]
    exact (fresh_of_recorded l c hev e he).symm

/-- Every other entry stays. -/
theorem mem_call (l : Ledger S) (c : Call) {e : Entry} (he : e ∈ l.log.entries) :
    e ∈ (l.call c).2.log.entries ∨ l.evicted? c = some e := by
  rcases call_cases l c with ⟨-, -, hentries, -⟩ | ⟨new, hev, hentries, -⟩ | ⟨-, hentries, -⟩
  · left
    rwa [hentries]
  · have hevicted : l.evicted? c =
        if l.log.capacity ≤ l.log.entries.length then l.log.entries.head? else none := by
      unfold Ledger.evicted?
      rw [hev]
    rw [hentries, hevicted]
    unfold slide
    by_cases hfull : l.log.capacity ≤ l.log.entries.length
    · -- Only the oldest entry of a full log has to go.
      rw [if_pos hfull, if_pos hfull]
      cases hlog : l.log.entries with
      | nil =>
        rw [hlog] at he
        cases he
      | cons oldest newer =>
        rw [hlog] at he
        rcases List.mem_cons.1 he with holdest | hnewer
        · right
          rw [holdest]
          rfl
        · left
          exact List.mem_append_left _ hnewer
    · rw [if_neg hfull]
      exact .inl (List.mem_append_left _ he)
  · left
    rwa [hentries]

/-- A request is found after a call as before it, if its entry is not evicted. -/
theorem lookup?_call (l : Ledger S) (c : Call) (hdistinct : Distinct l.log.entries)
    {r : Reference} {q : Request} (h : l.log.lookup? r = some q)
    (hstays : ∀ e ∈ l.evicted? c, e.reference ≠ r) :
    (l.call c).2.log.lookup? r = some q := by
  obtain ⟨e, he, hreference, hq⟩ := (lookup?_iff hdistinct).1 h
  rcases mem_call l c he with hmem | hevicted
  · exact (lookup?_iff (distinct_call l c hdistinct)).2 ⟨e, hmem, hreference, hq⟩
  · exact absurd hreference (hstays e hevicted)

/-! ## Runs -/

theorem distinct_of_run {s₀ : S} {capacity : Nat} {events : List Event} {l : Ledger S}
    (run : Run s₀ capacity events l) (hdistinct : Distinct (contents s₀)) :
    Distinct l.log.entries := by
  induction run with
  | opened => exact distinct_ofEntries hdistinct capacity
  | call _ _ c ih => exact distinct_call _ c ih

/-- What comes after a log and its store by further calls, with the entries that were
evicted on the way.  As in `Run`, the store may change between two calls in any way
that keeps its contents. -/
inductive Later (l₀ : Ledger S) : List Entry → Ledger S → Prop
  | now : Later l₀ [] l₀
  | call {evicted : List Entry} {l : Ledger S} (later : Later l₀ evicted l) {s : S}
      (same : contents s = contents l.store) (c : Call) :
      Later l₀ (evicted ++ (Ledger.evicted? ⟨l.log, s⟩ c).toList) (Ledger.call ⟨l.log, s⟩ c).2

/-- A request that is found is found as long as its entry was not evicted. -/
theorem lookup?_of_later {l₀ l : Ledger S} {evicted : List Entry} (later : Later l₀ evicted l)
    (hdistinct : Distinct l₀.log.entries) {r : Reference} {q : Request}
    (h : l₀.log.lookup? r = some q) (hstays : ∀ e ∈ evicted, e.reference ≠ r) :
    Distinct l.log.entries ∧ l.log.lookup? r = some q := by
  induction later with
  | now => exact ⟨hdistinct, h⟩
  | @call _ l _ s _ c ih =>
    obtain ⟨hd, hfound⟩ := ih fun e he => hstays e (List.mem_append_left _ he)
    refine ⟨distinct_call _ c hd, lookup?_call ⟨l.log, s⟩ c hd hfound fun e he => ?_⟩
    exact hstays e (List.mem_append_right _ (Option.mem_toList.2 he))

/-- **References identify entries.**  If no two entries of a store share a reference,
then at every point of a run over it no two entries of the log do, nor any two that a
call saves; whatever is recorded next gets a reference that no entry has just before,
and a request that is found under a reference is found under it until the entry is
evicted, and not any more then. -/
theorem references_of_run {s₀ : S} {capacity : Nat} {events : List Event} {l : Ledger S}
    (run : Run s₀ capacity events l) (hdistinct : Distinct (contents s₀)) :
    Distinct l.log.entries ∧
    (∀ (s : S) (c : Call), (Ledger.call ⟨l.log, s⟩ c).1.isOk = true → ∃ saved, Distinct saved ∧
      Store.save s saved = .ok (Ledger.call ⟨l.log, s⟩ c).2.store) ∧
    (∀ (s : S) (c : Call) (e : Entry), (Ledger.call ⟨l.log, s⟩ c).1 = .recorded e →
      ∀ e' ∈ l.log.entries, e'.reference ≠ e.reference) ∧
    (∀ (r : Reference) (q : Request), l.log.lookup? r = some q →
      ∀ (evicted : List Entry) (l' : Ledger S), Later l evicted l' →
        (∀ e ∈ evicted, e.reference ≠ r) → l'.log.lookup? r = some q) ∧
    ∀ (s : S) (c : Call) (e : Entry), Ledger.evicted? ⟨l.log, s⟩ c = some e →
      e ∈ l.log.entries ∧ (Ledger.call ⟨l.log, s⟩ c).2.log.lookup? e.reference = none := by
  have hlog := distinct_of_run run hdistinct
  refine ⟨hlog, ?_, ?_, ?_, ?_⟩
  · intro s c hok
    -- A call that succeeds saves the window, moved on or not.
    rcases call_cases ⟨l.log, s⟩ c with ⟨hno, -⟩ | ⟨e, hev, -, hsave⟩ | ⟨-, -, hsave⟩
    · rw [hno] at hok
      cases hok
    · exact ⟨_, distinct_slide hlog (fresh_of_recorded ⟨l.log, s⟩ c hev), hsave⟩
    · exact ⟨_, hlog, hsave⟩
  · intro s c e hev
    exact fresh_of_recorded ⟨l.log, s⟩ c hev
  · intro r q hfound evicted l' later hstays
    exact (lookup?_of_later later hlog hfound hstays).2
  · intro s c e hevicted
    exact lookup?_of_evicted? ⟨l.log, s⟩ c hlog hevicted

/-- Two saved entries fill a log.  A recording is refused, and the same one, at the
same time, then evicts the older entry; the newer one is still found. -/
theorem references_of_run_one_evicted :
    let shelf : Shelf := .ofEntries [sampleEntry "a", sampleEntry "b"] true
    let again : Call := .record ⟨5, 0⟩ (sampleEntry "c").roll
    let first := Ledger.call ⟨(load shelf 2).1, shelf⟩ again
    let second := Ledger.call ⟨first.2.log, { first.2.store with refuses := false }⟩ again
    first.1.isOk = false ∧ second.1.isOk = true ∧ second.2.log.entries.length = 2 ∧
      Distinct second.2.log.entries ∧ second.2.log.lookup? ⟨"b"⟩ = some (.plain 1 6) ∧
      second.2.log.lookup? ⟨"a"⟩ = none := by
  intro shelf again first second
  have same : ∀ s : Shelf, contents { s with refuses := false } = contents s := fun _ => rfl
  have run : Run shelf 2 [first.1] first.2 := .call .opened rfl again
  have run' : Run shelf 2 [first.1, second.1] second.2 := run.call (same first.2.store) again
  have hdistinct : Distinct (contents shelf) := by decide
  obtain ⟨-, -, -, hfound, hgone⟩ := references_of_run run hdistinct
  refine ⟨by decide +kernel, by decide +kernel, by decide +kernel,
    (references_of_run run' hdistinct).1, ?_, ?_⟩
  · have later : Later first.2 _ second.2 := Later.now.call (same first.2.store) again
    exact hfound ⟨"b"⟩ (.plain 1 6) (by decide +kernel) _ _ later (by decide +kernel)
  · exact (hgone _ again (sampleEntry "a") (by decide +kernel)).2

end ChatDice.RollLog
