import ChatDice.Proofs.Log.Recording

/-! # How long an entry can be found

    An entry is found under its reference as long as no older entry has the same
    one, and it stays in the log until as many newer entries were recorded as the
    log keeps.

    - `Held`: an entry that is found, and how many newer ones there are.
    - `held_of_recorded`: a new entry is held, with none newer.
    - `held_record`: a held entry stays so while there is room for newer ones.
-/

namespace ChatDice.RollLog

/-- The log finds the request under the reference, in an entry to which at most
`newer` others have been added. -/
def Held (log : RollLog) (r : Reference) (q : Request) (newer : Nat) : Prop :=
  ∃ before e after, log.entries = before ++ e :: after ∧ e.reference = r ∧ e.roll.request = q ∧
    (∀ e' ∈ before, e'.reference ≠ r) ∧ after.length ≤ newer

variable {log : RollLog} {r : Reference} {q : Request} {newer : Nat}

/-- A held request is found. -/
theorem lookup?_of_held (h : log.Held r q newer) : log.lookup? r = some q := by
  obtain ⟨before, e, after, hentries, rfl, rfl, hbefore, -⟩ := h
  have hnone : before.find? (·.reference == e.reference) = none := by
    rw [List.find?_eq_none]
    intro e' he'
    simpa using hbefore e' he'
  rw [lookup?, get?, hentries, List.find?_append, hnone, Option.none_or,
    List.find?_cons_of_pos (by simp)]
  rfl

/-- The window slides by one entry: an entry with room behind it stays. -/
theorem held_slide (h : log.Held r q newer) (hroom : newer + 1 < log.capacity) (e' : Entry)
    {sequence : UInt64} :
    Held { log with entries := log.slide e', sequence := sequence } r q (newer + 1) := by
  obtain ⟨before, e, after, hentries, he, hq, hbefore, hafter⟩ := h
  by_cases hfull : log.capacity ≤ log.entries.length
  · cases before with
    | nil =>
      -- The entry would be evicted, but then the newer ones would fill the log.
      rw [hentries, List.nil_append, List.length_cons] at hfull
      omega
    | cons d ds =>
      refine ⟨ds, e, after ++ [e'], ?_, he, hq, ?_, ?_⟩
      · simp only [slide, if_pos hfull]
        rw [hentries, List.cons_append, List.tail_cons, List.append_assoc, List.cons_append]
      · intro d' hd'
        exact hbefore d' (List.mem_cons_of_mem _ hd')
      · rw [List.length_append, List.length_singleton]
        omega
  · refine ⟨before, e, after ++ [e'], ?_, he, hq, hbefore, ?_⟩
    · simp only [slide, if_neg hfull]
      rw [hentries, List.append_assoc, List.cons_append]
    · rw [List.length_append, List.length_singleton]
      omega

variable {S : Type} [Store S] {s : S} {now : Instant} {roll : Roll}

/-- A new entry is held: its reference is that of no entry before it. -/
theorem held_of_recorded (h : (log.record s now roll).answer = .ok r) :
    (log.record s now roll).log.Held r roll.request 0 := by
  rcases log.record_cases s now roll with
    ⟨-, hrecord⟩ | ⟨_, _, _, -, -, hrecord⟩ | ⟨r', sequence, s', href, -, hrecord⟩
  · rw [hrecord] at h
    cases h
  · rw [hrecord] at h
    cases h
  · rw [hrecord] at h ⊢
    obtain rfl := Except.ok.inj h
    have hfresh := nextReference_fresh href
    -- What is in front of the new entry was in the log before.
    refine ⟨_, ⟨r', now, roll⟩, [], rfl, rfl, rfl, ?_, Nat.le_refl 0⟩
    intro e' he'
    split at he'
    · exact hfresh e' (List.mem_of_mem_tail he')
    · exact hfresh e' he'

/-- Recording keeps an entry held while there is room for one more. -/
theorem held_record (h : log.Held r q newer) (hroom : newer + 1 < log.capacity) :
    (log.record s now roll).log.Held r q (newer + 1) := by
  have later : ∀ n, log.Held r q newer → newer ≤ n → log.Held r q n := by
    rintro n ⟨before, e, after, hentries, he, hq, hbefore, hafter⟩ hn
    exact ⟨before, e, after, hentries, he, hq, hbefore, Nat.le_trans hafter hn⟩
  rcases log.record_cases s now roll with
    ⟨-, hrecord⟩ | ⟨_, _, _, -, -, hrecord⟩ | ⟨r', sequence, s', -, -, hrecord⟩
  · rw [hrecord]
    exact later _ h (Nat.le_succ _)
  · rw [hrecord]
    exact later _ h (Nat.le_succ _)
  · rw [hrecord]
    exact held_slide h hroom _

/-- A recording that fails keeps every entry as it is held. -/
theorem held_record_error {e : RecordError} (h : log.Held r q newer)
    (hfail : (log.record s now roll).answer = .error e) :
    (log.record s now roll).log.Held r q newer := by
  rcases log.record_cases s now roll with
    ⟨-, hrecord⟩ | ⟨_, _, _, -, -, hrecord⟩ | ⟨r', sequence, s', -, -, hrecord⟩
  · rw [hrecord]
    exact h
  · rw [hrecord]
    exact h
  · rw [hrecord] at hfail
    cases hfail

end ChatDice.RollLog
