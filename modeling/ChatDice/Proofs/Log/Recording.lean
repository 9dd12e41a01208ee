import ChatDice.Log.RollLog

/-! # One recording

    What a single `record` can do to a log, and what is known about the reference
    it hands out.

    - `slide`: the entries of a log as a window that slides by a new one.
    - `restore_pop`: what a failed save undoes is all that was done.
    - `record_cases`: there is no free reference, or the store refuses, or the
      log slides by one entry and the store is saved.
    - `nextReference_fresh`: a new reference is the reference of no entry.
    - `nextReference_eq_none_iff`: there is none if every candidate is taken.
    - `nextReference_isHex`: a new reference is 32 lower-case hexadecimal digits.
-/

namespace ChatDice

/-! ## Hexadecimal digits -/

namespace Hex

/-- A hexadecimal digit as it is written. -/
def IsDigit (c : Char) : Prop := c ∈ "0123456789abcdef".toList

instance (c : Char) : Decidable (IsDigit c) := inferInstanceAs (Decidable (c ∈ _))

theorem isDigit_lastDigit (n : Nat) : IsDigit (lastDigit n) := by
  have small : ∀ k : Fin 16, IsDigit (Nat.digitChar k) := by decide
  exact small ⟨n % 16, Nat.mod_lt _ (by decide)⟩

theorem isDigit_of_mem_ofBytes {bytes : List UInt8} {c : Char} (h : c ∈ ofBytes bytes) :
    IsDigit c := by
  obtain ⟨b, _, hc⟩ := List.mem_flatMap.1 h
  simp only [ofByte, List.mem_cons, List.not_mem_nil, or_false] at hc
  rcases hc with rfl | rfl
  · exact isDigit_lastDigit _
  · exact isDigit_lastDigit _

theorem length_ofBytes (bytes : List UInt8) : (ofBytes bytes).length = 2 * bytes.length := by
  induction bytes with
  | nil => rfl
  | cons b bs ih =>
    have hb : (ofByte b).length = 2 := rfl
    simp only [ofBytes, List.flatMap_cons, List.length_append, List.length_cons] at ih ⊢
    omega

end Hex

theorem Sha256.length_digest (message : List UInt8) : (Sha256.digest message).length = 32 := by
  simp [digest, bytesOfWord, bytesOf]

/-- A reference of 32 lower-case hexadecimal digits. -/
def Reference.IsHex (r : Reference) : Prop :=
  r.token.toList.length = 32 ∧ ∀ c ∈ r.token.toList, Hex.IsDigit c

namespace RollLog

/-! ## New references -/

theorem get?_eq_none_iff {log : RollLog} {r : Reference} :
    log.get? r = none ↔ ∀ e ∈ log.entries, e.reference ≠ r := by
  simp [get?, List.find?_eq_none]

/-- A request that is found is that of an entry with the reference. -/
theorem exists_mem_of_lookup? {log : RollLog} {r : Reference} {q : Request}
    (h : log.lookup? r = some q) : ∃ e ∈ log.entries, e.reference = r ∧ e.roll.request = q := by
  obtain ⟨e, hfound, hq⟩ := Option.map_eq_some_iff.1 h
  have hmem : e ∈ log.entries := List.mem_of_find?_eq_some hfound
  have hreference : e.reference = r := by simpa using List.find?_some hfound
  exact ⟨e, hmem, hreference, hq⟩

theorem isHex_candidate (stamp : List Char) (n : UInt64) : (candidate stamp n).IsHex := by
  unfold Reference.IsHex candidate
  simp only [String.toList_ofList]
  constructor
  · rw [Hex.length_ofBytes, List.length_take, Sha256.length_digest]
    rfl
  · intro c hc
    exact Hex.isDigit_of_mem_ofBytes hc

/-- The search stops at the first candidate that no entry has. -/
theorem search_some {log : RollLog} {stamp : List Char} {fuel : Nat} {n k : UInt64}
    {r : Reference} (h : log.search stamp fuel n = some (r, k)) :
    r = candidate stamp k ∧ log.get? r = none := by
  induction fuel generalizing n with
  | zero => simp [search] at h
  | succ fuel ih =>
    simp only [search] at h
    split at h
    · next free =>
      obtain ⟨rfl, rfl⟩ := Prod.mk.inj (Option.some.inj h)
      exact ⟨rfl, Option.isNone_iff_eq_none.1 free⟩
    · exact ih h

/-- A new reference differs from all references in the log, the one that is about
to be evicted included. -/
theorem nextReference_fresh {log : RollLog} {now : Instant} {r : Reference} {k : UInt64}
    (h : log.nextReference now = some (r, k)) : ∀ e ∈ log.entries, e.reference ≠ r :=
  get?_eq_none_iff.1 (search_some h).2

/-- The numbers after the next one, counted from there. -/
theorem number_succ (n : UInt64) (i : Nat) :
    n + 1 + 1 + UInt64.ofNat i = n + 1 + UInt64.ofNat (i + 1) := by
  rw [UInt64.ofNat_add, UInt64.ofNat_one, UInt64.add_assoc (n + 1), UInt64.add_comm (UInt64.ofNat i)]

/-- The search finds nothing if it only meets candidates that are taken. -/
theorem search_eq_none_iff {log : RollLog} {stamp : List Char} {fuel : Nat} {n : UInt64} :
    log.search stamp fuel n = none ↔
      ∀ i < fuel, log.get? (candidate stamp (n + 1 + UInt64.ofNat i)) ≠ none := by
  induction fuel generalizing n with
  | zero => simp [search]
  | succ fuel ih =>
    have start : n + 1 + UInt64.ofNat 0 = n + 1 := UInt64.add_zero _
    rw [search]
    -- The candidate at hand is number zero of those that are met.
    by_cases free : (log.get? (candidate stamp (n + 1))).isNone = true
    · rw [if_pos free]
      constructor
      · intro h
        cases h
      · intro taken
        have hfirst := taken 0 (Nat.succ_pos fuel)
        rw [start] at hfirst
        exact absurd (Option.isNone_iff_eq_none.1 free) hfirst
    · rw [if_neg free, ih]
      constructor
      · intro taken i hi
        match i with
        | 0 =>
          rw [start]
          exact mt Option.isNone_iff_eq_none.2 free
        | i + 1 =>
          rw [← number_succ n i]
          exact taken i (Nat.lt_of_succ_lt_succ hi)
      · intro taken i hi
        rw [number_succ n i]
        exact taken (i + 1) (Nat.succ_lt_succ hi)

/-- There is no new reference exactly if every candidate is taken, whatever number
the search starts at. -/
theorem nextReference_eq_none_iff {log : RollLog} {now : Instant} :
    log.nextReference now = none ↔
      ∀ n : UInt64, ∃ e ∈ log.entries, e.reference = candidate now.referenceStamp n := by
  have taken_iff : ∀ r, log.get? r ≠ none ↔ ∃ e ∈ log.entries, e.reference = r := by
    intro r
    simp [get?_eq_none_iff]
  rw [nextReference, search_eq_none_iff]
  constructor
  · intro taken n
    -- Every number is met, as so many steps after the first.
    have hn : log.sequence + 1 + UInt64.ofNat (n - (log.sequence + 1)).toNat = n := by
      rw [UInt64.ofNat_toNat, UInt64.add_comm, UInt64.sub_add_cancel]
    have hmet := taken (n - (log.sequence + 1)).toNat (UInt64.toNat_lt_size _)
    rw [hn] at hmet
    exact (taken_iff _).1 hmet
  · intro taken i _
    exact (taken_iff _).2 (taken _)

theorem nextReference_isHex {log : RollLog} {now : Instant} {r : Reference} {k : UInt64}
    (h : log.nextReference now = some (r, k)) : r.IsHex := by
  rw [(search_some h).1]
  exact isHex_candidate _ _

/-! ## Making room, and taking it back -/

/-- The entries with a new one at the end; a full log loses its oldest entry. -/
def slide (log : RollLog) (e : Entry) : List Entry :=
  (if log.capacity ≤ log.entries.length then log.entries.tail else log.entries) ++ [e]

/-- Evicting and adding an entry slides the window, and changes nothing else. -/
theorem push_evict (log : RollLog) (e : Entry) :
    log.evict.2.push e = { log with entries := log.slide e } := by
  unfold evict slide
  split
  · rfl
  · rfl

/-- Whether or not an entry was evicted, putting it back gives the log as it was. -/
theorem restore_evict (log : RollLog) : log.evict.2.restore log.evict.1 = log := by
  unfold evict
  split
  · next full =>
    -- A log has room for an entry, so a full one has an oldest entry.
    obtain ⟨oldest, rest, hentries⟩ := List.exists_cons_of_length_pos
      (Nat.lt_of_lt_of_le log.capacity_pos full)
    cases log
    subst hentries
    rfl
  · rfl

/-- Taking away the entry that was added leaves the log as it was. -/
theorem pop_push (log : RollLog) (e : Entry) : (log.push e).pop = log := by
  have hentries : (log.entries ++ [e]).dropLast = log.entries := List.dropLast_concat
  rw [push, pop, hentries]

/-- Undoing a recording step by step, the last step first, restores the log. -/
theorem restore_pop (log : RollLog) (e : Entry) :
    (log.evict.2.push e).pop.restore log.evict.1 = log := by
  rw [pop_push, restore_evict]

/-! ## All that `record` can do -/

variable {S : Type} [Store S]

/-- Without a new reference nothing happens. -/
theorem record_of_noReference {log : RollLog} {now : Instant}
    (h : log.nextReference now = none) (s : S) (roll : Roll) :
    log.record s now roll = ⟨.error .noReference, log, s, []⟩ := by
  rw [record, h]

/-- If the store refuses the new window, all that is left of the recording is the number
of the candidate. -/
theorem record_of_notSaved {log : RollLog} {s : S} {now : Instant} {roll : Roll}
    {reference : Reference} {sequence : UInt64} {e : SaveError}
    (href : log.nextReference now = some (reference, sequence))
    (hsave : Store.save s (log.slide ⟨reference, now, roll⟩) = .error e) :
    log.record s now roll = ⟨.error (.notSaved e), { log with sequence := sequence }, s, []⟩ := by
  have hrestored := restore_pop { log with sequence := sequence } ⟨reference, now, roll⟩
  have hpushed := push_evict { log with sequence := sequence } ⟨reference, now, roll⟩
  rw [hpushed] at hrestored
  rw [record, href]
  dsimp only
  rw [hpushed]
  -- Sliding does not depend on the number.
  change Store.save s (slide { log with sequence := sequence } _) = _ at hsave
  dsimp only
  rw [hsave]
  dsimp only
  rw [hrestored]

/-- If the store takes the new window, the log has it too. -/
theorem record_of_saved {log : RollLog} {s s' : S} {now : Instant} {roll : Roll}
    {reference : Reference} {sequence : UInt64}
    (href : log.nextReference now = some (reference, sequence))
    (hsave : Store.save s (log.slide ⟨reference, now, roll⟩) = .ok s') :
    log.record s now roll =
      ⟨.ok reference,
        { log with entries := log.slide ⟨reference, now, roll⟩, sequence := sequence }, s',
        [.recorded reference roll.request]⟩ := by
  have hpushed := push_evict { log with sequence := sequence } ⟨reference, now, roll⟩
  rw [record, href]
  dsimp only
  rw [hpushed]
  -- Sliding does not depend on the number.
  change Store.save s (slide { log with sequence := sequence } _) = _ at hsave
  dsimp only
  rw [hsave]
  rfl

/-- Recording finds no reference, or cannot save and only uses up a number, or
slides the window by the new entry and saves it. -/
theorem record_cases (log : RollLog) (s : S) (now : Instant) (roll : Roll) :
    (log.nextReference now = none ∧
      log.record s now roll = ⟨.error .noReference, log, s, []⟩) ∨
    (∃ reference sequence e, log.nextReference now = some (reference, sequence) ∧
      Store.save s (log.slide ⟨reference, now, roll⟩) = .error e ∧
      log.record s now roll = ⟨.error (.notSaved e), { log with sequence := sequence }, s, []⟩) ∨
    (∃ reference sequence s', log.nextReference now = some (reference, sequence) ∧
      Store.save s (log.slide ⟨reference, now, roll⟩) = .ok s' ∧
      log.record s now roll =
        ⟨.ok reference,
          { log with entries := log.slide ⟨reference, now, roll⟩, sequence := sequence }, s',
          [.recorded reference roll.request]⟩) := by
  cases href : log.nextReference now with
  | none => exact .inl ⟨rfl, record_of_noReference href s roll⟩
  | some found =>
    obtain ⟨reference, sequence⟩ := found
    cases hsave : Store.save s (log.slide ⟨reference, now, roll⟩) with
    | error e =>
      exact .inr (.inl ⟨reference, sequence, e, rfl, hsave, record_of_notSaved href hsave⟩)
    | ok s' =>
      exact .inr (.inr ⟨reference, sequence, s', rfl, hsave, record_of_saved href hsave⟩)

/-- A recording that succeeds hands out a new reference. -/
theorem nextReference_of_recorded {log : RollLog} {s : S} {now : Instant} {roll : Roll}
    {r : Reference} (h : (log.record s now roll).answer = .ok r) :
    ∃ sequence, log.nextReference now = some (r, sequence) := by
  rcases log.record_cases s now roll with
    ⟨-, hrecord⟩ | ⟨_, _, _, -, -, hrecord⟩ | ⟨r', sequence, s', href, -, hrecord⟩
  · rw [hrecord] at h
    cases h
  · rw [hrecord] at h
    cases h
  · rw [hrecord] at h
    obtain rfl := Except.ok.inj h
    exact ⟨sequence, href⟩

theorem isHex_of_recorded {log : RollLog} {s : S} {now : Instant} {roll : Roll} {r : Reference}
    (h : (log.record s now roll).answer = .ok r) : r.IsHex := by
  obtain ⟨_, href⟩ := nextReference_of_recorded h
  exact nextReference_isHex href

/-- Recording never changes the capacity. -/
@[simp] theorem capacity_record (log : RollLog) (s : S) (now : Instant) (roll : Roll) :
    (log.record s now roll).log.capacity = log.capacity := by
  rcases log.record_cases s now roll with ⟨_, h⟩ | ⟨_, _, _, _, _, h⟩ | ⟨_, _, _, _, _, h⟩ <;>
    rw [h]

end RollLog

end ChatDice
