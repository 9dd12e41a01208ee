import ChatDice.Proofs.Calendar.Dates
import Mathlib.Order.MinMax

/-! # The order of instants

    Instants are in a linear order, and `latest` is the maximum of two.

    - `max?_concat_of_lt`: an instant that is newer than some others is the newest
      of all.
    - `max?_concat_of_le`: any other leaves the newest what it is.
-/

namespace ChatDice.Instant

/-! ## The linear order -/

instance : LE Instant :=
  ⟨fun a b => a.seconds < b.seconds ∨ (a.seconds = b.seconds ∧ a.nanos ≤ b.nanos)⟩

instance (a b : Instant) : Decidable (a ≤ b) :=
  inferInstanceAs (Decidable (_ ∨ _))

theorem lt_iff {a b : Instant} :
    a < b ↔ a.seconds < b.seconds ∨ (a.seconds = b.seconds ∧ a.nanos < b.nanos) :=
  Iff.rfl

theorem le_iff {a b : Instant} :
    a ≤ b ↔ a.seconds < b.seconds ∨ (a.seconds = b.seconds ∧ a.nanos ≤ b.nanos) :=
  Iff.rfl

theorem eq_of_le_of_le {a b : Instant} (hab : a ≤ b) (hba : b ≤ a) : a = b := by
  rw [le_iff] at hab hba
  have hseconds : a.seconds = b.seconds := by omega
  have hnanos : a.nanos = b.nanos := by omega
  cases a
  cases b
  exact congr (congrArg Instant.mk hseconds) hnanos

theorem latest_eq (a b : Instant) : latest a b = if a ≤ b then b else a := by
  unfold latest
  by_cases hlt : a < b
  · have hle : a ≤ b := by
      rw [le_iff]
      rw [lt_iff] at hlt
      omega
    rw [if_pos hlt, if_pos hle]
  · rw [if_neg hlt]
    by_cases hle : a ≤ b
    · -- Neither is before the other.
      have hba : b ≤ a := by
        rw [le_iff]
        rw [lt_iff] at hlt
        omega
      rw [if_pos hle, eq_of_le_of_le hle hba]
    · rw [if_neg hle]

instance : LinearOrder Instant where
  le_refl a := by
    rw [le_iff]
    omega
  le_trans a b c := by
    simp only [le_iff]
    omega
  lt_iff_le_not_ge a b := by
    simp only [le_iff, lt_iff]
    omega
  le_antisymm _ _ := eq_of_le_of_le
  le_total a b := by
    simp only [le_iff]
    omega
  max           := latest
  max_def       := latest_eq
  toDecidableLE := inferInstance
  toDecidableEq := inferInstance
  toDecidableLT := inferInstance

theorem lt_next (i : Instant) : i < i.next := by
  rw [lt_iff, next]
  split
  · exact .inl (Int.lt_succ i.seconds)
  · exact .inr ⟨rfl, Nat.lt_succ_self i.nanos⟩

/-- What is made up of the fields of an instant is never before it. -/
theorem le_reread {i : Instant} (h : i.nanos < 2 * nanosPerSecond) : i ≤ i.reread := by
  rw [reread_eq h]
  split
  · exact le_refl i
  · exact .inl (Int.lt_add_one_of_le (Int.le_refl _))

/-! ## The newest of some instants -/

variable {times : List Instant} {t : Instant}

theorem max?_concat_of_lt (h : ∀ t' ∈ times, t' < t) : (times ++ [t]).max? = some t := by
  rw [List.max?_eq_some_iff]
  refine ⟨List.mem_append_right _ List.mem_cons_self, ?_⟩
  intro t' ht'
  rcases List.mem_append.1 ht' with hbefore | hlast
  · exact (h t' hbefore).le
  · exact (List.mem_singleton.1 hlast).le

theorem max?_concat_of_le {t' : Instant} (ht' : t' ∈ times) (hle : t ≤ t') :
    (times ++ [t]).max? = times.max? := by
  cases hmax : times.max? with
  | none =>
    rw [List.max?_eq_none_iff.1 hmax] at ht'
    cases ht'
  | some newest =>
    obtain ⟨hmem, hnewest⟩ := List.max?_eq_some_iff.1 hmax
    -- The maximum stays: the new time is not past `t'`, which is not past it.
    rw [List.max?_eq_some_iff]
    refine ⟨List.mem_append_left _ hmem, ?_⟩
    intro t'' ht''
    rcases List.mem_append.1 ht'' with hbefore | hlast
    · exact hnewest t'' hbefore
    · rw [List.mem_singleton.1 hlast]
      exact hle.trans (hnewest t' ht')

end ChatDice.Instant
