import ChatDice.Calendar.Instant

/-! # Dates and days

    Dates and days are two forms of the same thing, and so are instants and
    their fields.

    - `yearStart_yearOf`: the year of a day starts no later than the day, and the
      next year starts after it.
    - `Date.ofDay_spec`: the date of a day exists and is that day.
    - `reread_eq`: a proper instant is made up of its fields.
-/

namespace ChatDice

/-! ## Years -/

/-- 400 years have 146097 days, and the leap days are never far from spread
evenly: a year starts within two days of where it would start then. -/
theorem yearStart_bounds (y : Int) :
    146097 * y - 396 ≤ 400 * (yearStart y + 719528) ∧
      400 * (yearStart y + 719528) ≤ 146097 * y + 699 := by
  unfold yearStart
  omega

/-- The estimate of a day's year is at most one off, and is corrected. -/
theorem yearStart_yearOf (day : Int) :
    yearStart (yearOf day) ≤ day ∧ day < yearStart (yearOf day + 1) := by
  unfold yearOf
  generalize hy : 400 * (day + 719528) / 146097 = y
  -- The years next to the estimate bound how far it can be off.
  have hbefore := yearStart_bounds (y - 1)
  have hafter := yearStart_bounds (y + 2)
  by_cases hlow : day < yearStart y
  · rw [if_pos hlow, Int.sub_add_cancel]
    omega
  · by_cases hhigh : yearStart (y + 1) ≤ day
    · rw [if_neg hlow, if_pos hhigh, show y + 1 + 1 = y + 2 from by omega]
      omega
    · rw [if_neg hlow, if_neg hhigh]
      omega

@[simp] theorem daysIn_nil : daysIn [] = 0 := rfl

@[simp] theorem daysIn_cons (len : Nat) (ls : List Nat) : daysIn (len :: ls) = len + daysIn ls :=
  rfl

/-- The days of a year. -/
theorem yearStart_succ (y : Int) :
    yearStart (y + 1) = yearStart y + daysIn (monthLengths (isLeapYear y)) := by
  have leap : isLeapYear y = true ↔ (y % 4 = 0 ∧ (y % 100 ≠ 0 ∨ y % 400 = 0)) := by
    simp [isLeapYear]
  -- The month lengths of the two sorts of years are added up.
  cases h : isLeapYear y with
  | true =>
    have := leap.1 h
    simp only [monthLengths, if_true, daysIn_cons, daysIn_nil, yearStart]
    omega
  | false =>
    have : ¬(y % 4 = 0 ∧ (y % 100 ≠ 0 ∨ y % 400 = 0)) := by
      intro hy
      rw [leap.2 hy] at h
      cases h
    simp only [monthLengths, Bool.false_eq_true, if_false, daysIn_cons, daysIn_nil, yearStart]
    omega

/-! ## Months -/

/-- A number of days is split into whole months and a day of the next month. -/
theorem splitMonths_spec {lengths : List Nat} {days : Nat} (month : Nat)
    (h : days < daysIn lengths) :
    ∃ k len, lengths[k]? = some len ∧
      splitMonths month lengths days = (month + k, days - daysIn (lengths.take k) + 1) ∧
      daysIn (lengths.take k) ≤ days ∧ days < daysIn (lengths.take k) + len := by
  induction lengths generalizing month days with
  | nil => simp at h
  | cons len ls ih =>
    by_cases hlt : days < len
    · exact ⟨0, len, rfl, by simp [splitMonths, hlt], by simp, by simpa using hlt⟩
    · -- The first month is over, and the rest of the days are split on.
      rw [daysIn_cons] at h
      obtain ⟨k, len', hget, hsplit, hle, hlt'⟩ := ih (month + 1) (show days - len < daysIn ls by omega)
      refine ⟨k + 1, len', hget, ?_, ?_, ?_⟩
      · rw [splitMonths, if_neg hlt, hsplit, List.take_succ_cons, daysIn_cons]
        congr 1
        · omega
        · omega
      · rw [List.take_succ_cons, daysIn_cons]
        omega
      · rw [List.take_succ_cons, daysIn_cons]
        omega

theorem monthLengths_le (leap : Bool) : ∀ len ∈ monthLengths leap, len ≤ 31 := by
  cases leap <;> decide

/-! ## Dates -/

namespace Date

/-- The date of a day exists and is that day. -/
theorem ofDay_spec (day : Int) :
    (ofDay day).year = yearOf day ∧ (ofDay day).exists? = true ∧ (ofDay day).toDay = day ∧
      (ofDay day).month ≤ 12 ∧ (ofDay day).day ≤ 31 := by
  obtain ⟨hfrom, hto⟩ := yearStart_yearOf day
  rw [yearStart_succ] at hto
  -- The day lies in its year, so the months of the year are enough for it.
  have hdays : (day - yearStart (yearOf day)).toNat <
      daysIn (monthLengths (isLeapYear (yearOf day))) := by omega
  obtain ⟨k, len, hget, hsplit, hle, hlt⟩ := splitMonths_spec 1 hdays
  have hof : ofDay day = ⟨yearOf day, 1 + k, (day - yearStart (yearOf day)).toNat -
      daysIn ((monthLengths (isLeapYear (yearOf day))).take k) + 1⟩ := by
    simp only [ofDay, hsplit]
  have hk : k < 12 := by
    obtain ⟨hk, _⟩ := List.getElem?_eq_some_iff.1 hget
    simpa [monthLengths] using hk
  have hlen : len ≤ 31 := monthLengths_le _ len (List.mem_of_getElem? hget)
  -- The fields are those that the split gave; the rest is counting.
  rw [hof]
  refine ⟨rfl, ?_, ?_, ?_, ?_⟩
  · simp only [exists?, Nat.add_sub_cancel_left, hget, Option.any_some, Bool.and_eq_true,
      decide_eq_true_eq]
    omega
  · simp only [toDay, Nat.add_sub_cancel_left, Nat.add_sub_cancel]
    omega
  · show 1 + k ≤ 12
    omega
  · show _ - _ + 1 ≤ 31
    omega

end Date

/-! ## Instants -/

namespace Instant

/-- Whether the nanoseconds are those of a second, or of a leap second after the
last second of a minute. -/
def IsProper (i : Instant) : Prop :=
  i.nanos < nanosPerSecond ∨
    (i.nanos < 2 * nanosPerSecond ∧ i.seconds % 60 = 59)

instance (i : Instant) : Decidable i.IsProper := inferInstanceAs (Decidable (_ ∨ _))

/-- The second of the day: fewer than a day has, and the same within its minute. -/
theorem secondOfDay_spec (i : Instant) :
    ∃ s : Nat, (i.seconds % secondsPerDay).toNat = s ∧ s < 86400 ∧
      i.seconds = i.seconds / secondsPerDay * secondsPerDay + s ∧
      s % 60 = (i.seconds % 60).toNat := by
  refine ⟨_, rfl, ?_, ?_, ?_⟩ <;> unfold secondsPerDay <;> omega

theorem IsProper.nanos_lt {i : Instant} (h : i.IsProper) : i.nanos < 2 * nanosPerSecond := by
  unfold IsProper nanosPerSecond at h
  unfold nanosPerSecond
  omega

/-- The time of day of an instant exists. -/
theorem exists?_timeOfDay {i : Instant} (h : i.nanos < 2 * nanosPerSecond) :
    i.timeOfDay.exists? = true := by
  obtain ⟨s, hs, hday, _, hmod⟩ := i.secondOfDay_spec
  unfold nanosPerSecond at h
  simp only [timeOfDay, hs, TimeOfDay.exists?, nanosPerSecond, Bool.and_eq_true,
    decide_eq_true_eq]
  omega

/-- The instant that the date and the time of day of an instant make up. -/
def reread (i : Instant) : Instant := ofFields i.date i.timeOfDay 0

/-- A proper instant is made up of its date and its time of day.  A leap second that
does not end a minute looks like the next second. -/
theorem reread_eq {i : Instant} (h : i.nanos < 2 * nanosPerSecond) :
    i.reread = if i.IsProper then i else ⟨i.seconds + 1, i.nanos - nanosPerSecond⟩ := by
  obtain ⟨_, _, hday, _, _⟩ := Date.ofDay_spec (i.seconds / secondsPerDay)
  obtain ⟨s, hs, _, hseconds, hmod⟩ := i.secondOfDay_spec
  unfold nanosPerSecond at h
  by_cases hproper : i.IsProper
  · rw [if_pos hproper]
    unfold IsProper nanosPerSecond at hproper
    -- A leap second counts as second 60, and is taken back as the 59th with a second more.
    have hclock : s / 3600 * 3600 + s / 60 % 60 * 60 +
        min (s % 60 + i.nanos / 1000000000) 59 = s := by
      omega
    have hnanos : i.nanos % 1000000000 +
        (if s % 60 + i.nanos / 1000000000 = 60 then 1000000000 else 0) = i.nanos := by
      split <;> omega
    simp only [reread, ofFields, date, hday, timeOfDay, hs, nanosPerSecond, hclock, hnanos,
      ← hseconds, Int.sub_zero]
  · rw [if_neg hproper]
    unfold IsProper nanosPerSecond at hproper
    -- Its second is before the 59th, so it counts as an ordinary one.
    have hclock : s / 3600 * 3600 + s / 60 % 60 * 60 +
        min (s % 60 + i.nanos / 1000000000) 59 = s + 1 := by
      omega
    have hnanos : i.nanos % 1000000000 +
        (if s % 60 + i.nanos / 1000000000 = 60 then 1000000000 else 0) =
        i.nanos - 1000000000 := by
      split <;> omega
    simp only [reread, ofFields, date, hday, timeOfDay, hs, nanosPerSecond, hclock, hnanos,
      Int.natCast_add, ← Int.add_assoc, ← hseconds, Int.sub_zero]
    rfl

theorem reread_of_isProper {i : Instant} (h : i.IsProper) : i.reread = i := by
  rw [reread_eq h.nanos_lt, if_pos h]

theorem reread_eq_self_iff {i : Instant} (h : i.nanos < 2 * nanosPerSecond) :
    i.reread = i ↔ i.IsProper := by
  rw [reread_eq h]
  by_cases hproper : i.IsProper
  · rw [if_pos hproper]
    exact ⟨fun _ => hproper, fun _ => rfl⟩
  · rw [if_neg hproper]
    refine ⟨fun hsame => ?_, fun h => absurd h hproper⟩
    have hseconds : i.seconds + 1 = i.seconds := congrArg seconds hsame
    omega

/-- What is made of a time of day that exists is proper, if the offset is in whole
minutes. -/
theorem isProper_ofFields {d : Date} {t : TimeOfDay} {minutes : Int}
    (h : t.exists? = true) : (ofFields d t (minutes * 60)).IsProper := by
  simp only [TimeOfDay.exists?, Bool.and_eq_true, decide_eq_true_eq] at h
  unfold IsProper ofFields
  simp only [secondsPerDay]
  unfold nanosPerSecond at h ⊢
  split
  · next hleap =>
    right
    rw [hleap]
    omega
  · next hplain =>
    left
    omega

end Instant

end ChatDice
