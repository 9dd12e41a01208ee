import ChatDice.Proofs.Log.Recording
import Mathlib.Algebra.Group.Nat.Defs
import Mathlib.Data.List.Perm.Subperm
import Mathlib.Data.Nat.Find

/-! # Enough candidates

    A log of bounded size cannot have taken all candidates for a reference if there are
    more of them than entries.  How many different candidates a time stamp has is a
    matter of the digest, so it is left as an assumption.

    - `HasCandidates`: more than a given number of different candidates.
    - `exists_free`: of so many references one is free.
    - `nextReference_ne_none`: then a new reference is found.
    - `nextReference_of_different`: how many candidates are tried for it.
    - `length_slide_le`, `length_ofEntries_le`: a log never outgrows its capacity.
-/

namespace ChatDice.RollLog

/-- For the time stamp there are more than `k` different candidates. -/
def HasCandidates (stamp : List Char) (k : Nat) : Prop :=
  ∃ ns : List UInt64, k < ns.length ∧ (ns.map (candidate stamp)).Nodup

/-- Of more different references than there are entries one is free. -/
theorem exists_free {log : RollLog} {rs : List Reference} (hnodup : rs.Nodup)
    (h : log.entries.length < rs.length) : ∃ r ∈ rs, log.get? r = none := by
  by_contra hnone
  -- Different references that are all taken would be those of as many entries.
  have hsub : rs ⊆ log.entries.map (·.reference) := by
    intro r hr
    have htaken : log.get? r ≠ none := fun hfree => hnone ⟨r, hr, hfree⟩
    obtain ⟨e, he⟩ := Option.ne_none_iff_exists'.1 htaken
    have hreference : e.reference = r := by simpa using List.find?_some he
    rw [← hreference]
    exact List.mem_map_of_mem (List.mem_of_find?_eq_some he)
  have hle := (hnodup.subperm hsub).length_le
  rw [List.length_map] at hle
  omega

/-- One of the candidates is the reference of no entry. -/
theorem nextReference_ne_none {log : RollLog} {now : Instant} {k : Nat}
    (h : HasCandidates now.referenceStamp k) (hlength : log.entries.length ≤ k) :
    log.nextReference now ≠ none := by
  intro hnone
  obtain ⟨ns, hk, hnodup⟩ := h
  have hmore : log.entries.length < (ns.map (candidate now.referenceStamp)).length := by
    rw [List.length_map]
    omega
  obtain ⟨r, hr, hfree⟩ := exists_free hnodup hmore
  obtain ⟨n, -, rfl⟩ := List.mem_map.1 hr
  obtain ⟨e, he, hreference⟩ := nextReference_eq_none_iff.1 hnone n
  exact get?_eq_none_iff.1 hfree e he hreference

/-! ## When the search ends -/

/-- The candidates of the `k` numbers that follow `n`, in the order in which they are
tried. -/
def candidatesAfter (stamp : List Char) (n : UInt64) (k : Nat) : List Reference :=
  (List.range k).map fun i => candidate stamp (n + 1 + UInt64.ofNat i)

/-- Of the candidates after `n` the one at place `i` is the first that is free. -/
structure FirstFree (log : RollLog) (stamp : List Char) (n : UInt64) (i : Nat) : Prop where
  free  : log.get? (candidate stamp (n + 1 + UInt64.ofNat i)) = none
  taken : ∀ j < i, log.get? (candidate stamp (n + 1 + UInt64.ofNat j)) ≠ none

/-- The search tries one candidate after the other, up to the first that is free. -/
theorem search_eq_of_first {log : RollLog} {stamp : List Char} {n : UInt64} {i : Nat}
    (h : log.FirstFree stamp n i) (fuel : Nat) :
    log.search stamp fuel n =
      if i < fuel then
        some (candidate stamp (n + 1 + UInt64.ofNat i), n + 1 + UInt64.ofNat i)
      else none := by
  have start : ∀ n : UInt64, n + 1 + UInt64.ofNat 0 = n + 1 := fun _ => UInt64.add_zero _
  -- After a candidate that is taken the free one is one place nearer.
  induction fuel generalizing n i with
  | zero => rfl
  | succ fuel ih =>
    rw [search]
    cases i with
    | zero =>
      have hfree := h.free
      rw [start n] at hfree ⊢
      rw [if_pos (Option.isNone_iff_eq_none.2 hfree), if_pos (Nat.succ_pos fuel)]
    | succ i =>
      have hfirst := h.taken 0 (Nat.succ_pos i)
      rw [start n] at hfirst
      have hrest : log.FirstFree stamp (n + 1) i := by
        refine ⟨?_, ?_⟩
        · rw [number_succ]
          exact h.free
        · intro j hj
          rw [number_succ]
          exact h.taken (j + 1) (Nat.succ_lt_succ hj)
      rw [if_neg (mt Option.isNone_iff_eq_none.1 hfirst), ih hrest, number_succ]
      simp only [Nat.succ_lt_succ_iff]

/-- Among different candidates, one more than there are entries, there is a first free one. -/
theorem exists_firstFree {log : RollLog} {stamp : List Char} {n : UInt64}
    (h : (candidatesAfter stamp n (log.entries.length + 1)).Nodup) :
    ∃ i ≤ log.entries.length, log.FirstFree stamp n i := by
  have hlength : log.entries.length < (candidatesAfter stamp n (log.entries.length + 1)).length := by
    rw [candidatesAfter, List.length_map, List.length_range]
    exact Nat.lt_succ_self _
  obtain ⟨r, hr, hfree⟩ := exists_free h hlength
  obtain ⟨i, hi, rfl⟩ := List.mem_map.1 hr
  -- One of them is free, so there is a first one.
  have hexists : ∃ i, log.get? (candidate stamp (n + 1 + UInt64.ofNat i)) = none := ⟨i, hfree⟩
  have hle : Nat.find hexists ≤ i := Nat.find_min' hexists hfree
  refine ⟨Nat.find hexists, ?_, Nat.find_spec hexists, fun j hj => Nat.find_min hexists hj⟩
  exact Nat.le_trans hle (Nat.le_of_lt_succ (List.mem_range.1 hi))

/-- Numbers repeat after all 64-bit words, so the first free candidate comes before. -/
theorem FirstFree.lt_size {log : RollLog} {stamp : List Char} {n : UInt64} {i : Nat}
    (h : log.FirstFree stamp n i) : i < UInt64.size := by
  by_contra hlarge
  have hsame : UInt64.ofNat (i % UInt64.size) = UInt64.ofNat i := UInt64.ofNat_mod_size
  have hlt : i % UInt64.size < i :=
    Nat.lt_of_lt_of_le (Nat.mod_lt i (by decide)) (Nat.le_of_not_lt hlarge)
  -- The same number was tried before, and its candidate was taken.
  have hagain := h.taken (i % UInt64.size) hlt
  rw [hsame] at hagain
  exact hagain h.free

/-- **A new reference is found, after no more candidates than there are entries and one.**
If the candidates of so many numbers after the last one used are all different, wherever
this number stands, then the search for a reference ends with the first candidate that is
free, after exactly so many rounds: with less fuel it finds nothing, and more fuel makes no
difference.  The reference found is 32 lower-case hexadecimal digits and that of no entry,
and with it the number has advanced by the candidates that were tried, modulo 2⁶⁴, also in
the log after a recording, saved or not. -/
theorem nextReference_of_different (log : RollLog) (now : Instant)
    (h : (candidatesAfter now.referenceStamp log.sequence (log.entries.length + 1)).Nodup) :
    ∃ tried r sequence, 0 < tried ∧ tried ≤ log.entries.length + 1 ∧
      (∀ fuel, log.search now.referenceStamp fuel log.sequence =
        if tried ≤ fuel then some (r, sequence) else none) ∧
      log.nextReference now = some (r, sequence) ∧
      r.IsHex ∧ (∀ e ∈ log.entries, e.reference ≠ r) ∧
      sequence.toNat = (log.sequence.toNat + tried) % 2 ^ 64 ∧
      ∀ (S : Type) [Store S] (s : S) (roll : Roll),
        (log.record s now roll).log.sequence = sequence := by
  obtain ⟨i, hi, hfirst⟩ := exists_firstFree h
  have hsearch := search_eq_of_first hfirst
  have hnext : log.nextReference now = some (_, _) :=
    (hsearch UInt64.size).trans (if_pos hfirst.lt_size)
  refine ⟨i + 1, _, _, Nat.succ_pos i, Nat.succ_le_succ hi, hsearch, hnext,
    nextReference_isHex hnext, nextReference_fresh hnext, ?_, ?_⟩
  · simp only [UInt64.toNat_add, UInt64.toNat_ofNat', UInt64.toNat_one]
    omega
  · intro S _ s roll
    -- Saved or not, the number is that of the reference that was found.
    rcases log.record_cases s now roll with
      ⟨hnone, -⟩ | ⟨r, sequence, _, href, -, hrecord⟩ | ⟨r, sequence, _, href, -, hrecord⟩
    · rw [hnext] at hnone
      cases hnone
    · rw [hnext] at href
      cases href
      rw [hrecord]
    · rw [hnext] at href
      cases href
      rw [hrecord]

/-- The time of the next recording. -/
def sampleTime : Instant := ⟨5, 0⟩

/-- A log whose next number is zero again, with an entry that has the candidate of zero. -/
def wrappingLog : RollLog where
  entries      := [⟨candidate sampleTime.referenceStamp 0, sampleTime, .plain 1 6, .ofFaces [3] 0⟩]
  capacity     := 1
  sequence     := 0xffffffffffffffff
  capacity_pos := Nat.one_pos

/-- The candidate of zero is taken, so that of one is the second to be tried. -/
theorem nextReference_of_different_wrapping :
    (candidatesAfter sampleTime.referenceStamp wrappingLog.sequence 2).Nodup ∧
    ∃ r, wrappingLog.nextReference sampleTime = some (r, 1) ∧ r.IsHex ∧
      r ≠ candidate sampleTime.referenceStamp 0 := by
  have hnodup : (candidatesAfter sampleTime.referenceStamp wrappingLog.sequence 2).Nodup := by
    decide +kernel
  obtain ⟨tried, r, sequence, hpos, hmost, hsearch, hnext, hhex, hfresh, hsequence, -⟩ :=
    nextReference_of_different wrappingLog sampleTime hnodup
  have htaken : wrappingLog.search sampleTime.referenceStamp 1 wrappingLog.sequence = none := by
    decide +kernel
  -- One round is too few, and two are enough for one entry.
  have htried : tried = 2 := by
    have hmore : ¬ tried ≤ 1 := by
      intro hone
      rw [hsearch 1, if_pos hone] at htaken
      cases htaken
    have htwo : tried ≤ 2 := hmost
    omega
  have hone : sequence = 1 := by
    rw [htried] at hsequence
    exact UInt64.toNat_inj.1 hsequence
  rw [hone] at hnext
  exact ⟨hnodup, r, hnext, hhex, (hfresh _ List.mem_cons_self).symm⟩

/-! ## How many entries there are -/

theorem length_ofEntries_le (entries : List Entry) (capacity : Nat) :
    (ofEntries entries capacity).entries.length ≤ (ofEntries entries capacity).capacity := by
  show (entries.drop (entries.length - max capacity 1)).length ≤ max capacity 1
  rw [List.length_drop]
  omega

theorem length_slide_le {log : RollLog} (h : log.entries.length ≤ log.capacity) (e : Entry) :
    (log.slide e).length ≤ log.capacity := by
  have hpos := log.capacity_pos
  unfold slide
  rw [List.length_append, List.length_singleton]
  split
  · rw [List.length_tail]
    omega
  · omega

end ChatDice.RollLog
