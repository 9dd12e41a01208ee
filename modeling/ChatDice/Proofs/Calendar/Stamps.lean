import ChatDice.Calendar.Stamp
import ChatDice.Proofs.Calendar.Dates
import ChatDice.Proofs.Text.Classes
import ChatDice.Proofs.Text.Decimal
import ChatDice.Proofs.Text.Runs

/-! # Time stamps read back

    The stamp of a log entry is read back as the instant it was written for, if
    the year has four digits; with a sign in front of the year no reader takes
    it, since only the strict reader knows zones and only the lenient one signs.

    - `readZoned_written`, `readZoned_of_signed`: what the strict reader makes of a
      stamp.
    - `readEntryStamp_entryStamp`: the stamp of a log entry in both cases.
    - `isProper_of_readEntryStamp`: what is read from any stamp is proper.
-/

namespace ChatDice

/-- One step of a reader that goes on with what it has read. -/
theorem bind_eq_of_eq_some {α β : Type} {x : Option α} {a : α} {f : α → Option β} {y : Option β}
    (h : x = some a) (hf : f a = y) : (x >>= f) = y := by
  rw [h]
  exact hf

namespace Instant

/-! ## Parts of stamps -/

/-- A field of fixed width is read back, whatever follows. -/
theorem readNumber_padded {least width n : Nat} (hleast : least ≤ width) (hw : 0 < width)
    (h : n < Nat.pow 10 width) (rest : List Char) :
    readNumber least (some width) (Decimal.padded width n ++ rest) = some (n, rest) := by
  have hlen := Decimal.length_padded hw h
  have htake : (Decimal.padded width n ++ rest).take width = Decimal.padded width n :=
    List.take_left' hlen
  have hdigits : (Decimal.padded width n).takeWhile Char.isDigit = Decimal.padded width n := by
    have h : (Decimal.padded width n ++ []).takeWhile Char.isDigit = Decimal.padded width n :=
      Text.takeWhile_run (fun _ hc => Decimal.isDigit_of_mem_padded hc) (by simp)
    simpa using h
  simp only [readNumber, htake, hdigits, hlen, Decimal.value_padded]
  rw [if_neg (by omega), List.drop_left' hlen]

/-- A field of any width is read back if no digit follows. -/
theorem readNumber_unbounded {width n : Nat} {rest : List Char}
    (hrest : ∀ c ∈ rest.head?, c.isDigit = false) :
    readNumber 1 none (Decimal.padded width n ++ rest) = some (n, rest) := by
  have hdigits := Text.takeWhile_run
    (fun c hc => Decimal.isDigit_of_mem_padded (w := width) (n := n) hc) hrest
  have hne : (Decimal.padded width n).length ≠ 0 := by simp
  simp only [readNumber, hdigits, Decimal.value_padded]
  rw [if_neg (by omega), List.drop_left]

/-- A year after a minus sign may have any number of digits. -/
theorem readYear_minus {width n : Nat} {rest : List Char}
    (hrest : ∀ c ∈ rest.head?, c.isDigit = false) :
    readYear ('-' :: (Decimal.padded width n ++ rest)) = some (-(n : Int), rest) := by
  rw [readYear, Text.trimStart, List.dropWhile_cons_of_neg (by decide)]
  simp only [readNumber_unbounded hrest, Option.map_some]

/-- So may a year after a plus sign. -/
theorem readYear_plus {width n : Nat} {rest : List Char}
    (hrest : ∀ c ∈ rest.head?, c.isDigit = false) :
    readYear ('+' :: (Decimal.padded width n ++ rest)) = some ((n : Int), rest) := by
  rw [readYear, Text.trimStart, List.dropWhile_cons_of_neg (by decide)]
  simp only [readNumber_unbounded hrest, Option.map_some]

@[simp] theorem readChar_cons_self (c : Char) (s : List Char) : readChar c (c :: s) = some s := by
  simp [readChar]

theorem trimStart_padded (width n : Nat) (rest : List Char) :
    Text.trimStart (Decimal.padded width n ++ rest) = Decimal.padded width n ++ rest := by
  obtain ⟨d, ds, hds⟩ := List.exists_cons_of_ne_nil (Decimal.padded_ne_nil width n)
  have hd : d.isDigit = true :=
    Decimal.isDigit_of_mem_padded (w := width) (n := n) (by simp [hds])
  simp [hds, Text.trimStart, Text.isBlank_of_isDigit hd]

theorem readShort_padded {n : Nat} (h : n < 100) (rest : List Char) :
    readShort (Decimal.padded 2 n ++ rest) = some (n, rest) := by
  rw [readShort, trimStart_padded]
  exact readNumber_padded (by omega) (by omega) h rest

theorem readSpaced_cons_self {c : Char} (h : Text.isBlank c = false) (s : List Char) :
    readSpaced c (c :: s) = some s := by
  simp [readSpaced, Text.trimStart, h]

/-- Fraction digits are read back up to where no digit follows. -/
theorem readFractionDigits_padded {width n : Nat} (hw : 0 < width) (hnine : width ≤ 9)
    (h : n < Nat.pow 10 width) {rest : List Char} (hrest : ∀ c ∈ rest.head?, c.isDigit = false) :
    readFractionDigits (Decimal.padded width n ++ rest) = some (n * Nat.pow 10 (9 - width), rest) := by
  have hlen := Decimal.length_padded hw h
  have hdigits := Text.takeWhile_run
    (fun c hc => Decimal.isDigit_of_mem_padded (w := width) (n := n) hc) hrest
  have htake : (Decimal.padded width n).take 9 = Decimal.padded width n :=
    List.take_of_length_le (by omega)
  simp only [readFractionDigits, hdigits, htake, hlen, Decimal.value_padded]
  rw [if_neg (by simp), List.drop_left' hlen]

/-- No fraction is read where there is no point. -/
theorem readFraction_of_head {rest : List Char} (hpoint : ∀ c ∈ rest.head?, c ≠ '.') :
    readFraction rest = some (0, rest) := by
  unfold readFraction
  split
  · exact absurd rfl (hpoint '.' rfl)
  · rfl

/-- A fraction of a second is read back in each of its lengths, if neither a digit nor
a point follows. -/
theorem readFraction_writtenFraction {nanos : Nat} (h : nanos < nanosPerSecond) {rest : List Char}
    (hrest : ∀ c ∈ rest.head?, c.isDigit = false) (hpoint : ∀ c ∈ rest.head?, c ≠ '.') :
    readFraction (writtenFraction nanos ++ rest) = some (nanos, rest) := by
  unfold nanosPerSecond at h
  unfold writtenFraction
  split
  · next hzero =>
    -- No fraction is written; the reader finds no point.
    rw [hzero]
    exact readFraction_of_head hpoint
  · split
    · next hmillis =>
      -- Three digits, then six, then nine: the reader fills up the places that are missing.
      have hlow : nanos / 1000000 < Nat.pow 10 3 := show _ < 1000 by omega
      have hvalue : nanos / 1000000 * Nat.pow 10 6 = nanos := show _ * 1000000 = _ by omega
      rw [List.cons_append, readFraction,
        readFractionDigits_padded (by omega) (by omega) hlow hrest, hvalue]
    · split
      · next hmicros =>
        have hlow : nanos / 1000 < Nat.pow 10 6 := show _ < 1000000 by omega
        have hvalue : nanos / 1000 * Nat.pow 10 3 = nanos := show _ * 1000 = _ by omega
        rw [List.cons_append, readFraction,
          readFractionDigits_padded (by omega) (by omega) hlow hrest, hvalue]
      · have hvalue : nanos * Nat.pow 10 0 = nanos := Nat.mul_one nanos
        rw [List.cons_append, readFraction,
          readFractionDigits_padded (by omega) (by omega) h hrest, hvalue]

/-- A zone of UTC that cannot be taken for part of a fraction. -/
structure IsUtcZone (zone : List Char) : Prop where
  reads      : readZone zone = some (0, [])
  not_digit  : ∀ c ∈ zone.head?, c.isDigit = false
  not_point  : ∀ c ∈ zone.head?, c ≠ '.'

theorem isUtcZone_of_cons {c : Char} {zone : List Char} (h : readZone (c :: zone) = some (0, []))
    (hc : c.isDigit = false ∧ c ≠ '.') : IsUtcZone (c :: zone) where
  reads     := h
  not_digit := Text.forall_head?_cons hc.1 zone
  not_point := Text.forall_head?_cons (P := (· ≠ '.')) hc.2 zone

theorem isUtcZone_letter : IsUtcZone ['Z'] := isUtcZone_of_cons rfl (by decide)

theorem isUtcZone_offset : IsUtcZone "+00:00".toList := isUtcZone_of_cons rfl (by decide)

/-! ## Whole stamps -/

/-- Whether the year in UTC is written without a sign. -/
def HasPlainYear (i : Instant) : Prop := 0 ≤ i.date.year ∧ i.date.year ≤ 9999

instance (i : Instant) : Decidable i.HasPlainYear := inferInstanceAs (Decidable (_ ∧ _))

/-- The fields of a stamp fit their places. -/
theorem fields_lt {i : Instant} (h : i.nanos < 2 * nanosPerSecond) :
    i.date.month < 100 ∧ i.date.day < 100 ∧ i.timeOfDay.hour < 100 ∧ i.timeOfDay.minute < 100 ∧
      i.timeOfDay.second < 100 ∧ i.timeOfDay.nanos < nanosPerSecond := by
  obtain ⟨_, _, _, hmonth, hday⟩ := Date.ofDay_spec (i.seconds / secondsPerDay)
  have htime := exists?_timeOfDay h
  simp only [TimeOfDay.exists?, Bool.and_eq_true, decide_eq_true_eq] at htime
  obtain ⟨⟨⟨hhour, hminute⟩, hsecond⟩, hnanos⟩ := htime
  refine ⟨?_, ?_, ?_, ?_, ?_, hnanos⟩
  · exact Nat.lt_of_le_of_lt hmonth (by decide)
  · exact Nat.lt_of_le_of_lt hday (by decide)
  · omega
  · omega
  · omega

/-- A stamp as its fields in a row. -/
theorem written_eq (i : Instant) (separator : Char) (zone : List Char) :
    i.written separator zone = writtenYear i.date.year ++ '-' ::
      (Decimal.padded 2 i.date.month ++ '-' :: (Decimal.padded 2 i.date.day ++ separator ::
      (Decimal.padded 2 i.timeOfDay.hour ++ ':' :: (Decimal.padded 2 i.timeOfDay.minute ++ ':' ::
      (Decimal.padded 2 i.timeOfDay.second ++
      (writtenFraction i.timeOfDay.nanos ++ zone)))))) := by
  simp [written, writtenDate, writtenClock]

/-- The strict reader reads a stamp as the instant of its fields if the year has four
digits. -/
theorem readZoned_written {i : Instant} (h : i.nanos < 2 * nanosPerSecond)
    (hyear : i.HasPlainYear) {zone : List Char} (hzone : IsUtcZone zone) :
    readZoned (i.written 'T' zone) = some i.reread := by
  obtain ⟨hmonth, hday, hhour, hminute, hsecond, hnanos⟩ := fields_lt h
  obtain ⟨hlow, hhigh⟩ := hyear
  have hwritten : writtenYear i.date.year = Decimal.padded 4 i.date.year.natAbs := by
    rw [writtenYear, if_pos ⟨hlow, hhigh⟩]
  -- The fields are those of a date and a time of day, so the reader takes them.
  have hexists : yearRange.1 ≤ i.date.year ∧ i.date.year ≤ yearRange.2 ∧
      i.date.exists? ∧ i.timeOfDay.exists? := by
    obtain ⟨_, hdate, _, _, _⟩ := Date.ofDay_spec (i.seconds / secondsPerDay)
    refine ⟨?_, ?_, hdate, exists?_timeOfDay h⟩ <;> simp only [yearRange] <;> omega
  have hfields : ofFields? ⟨(i.date.year.natAbs : Int), i.date.month, i.date.day⟩
      ⟨i.timeOfDay.hour, i.timeOfDay.minute, i.timeOfDay.second, i.timeOfDay.nanos⟩ 0 =
      some i.reread := by
    rw [Int.natAbs_of_nonneg hlow, ofFields?, if_pos hexists]
    rfl
  -- From here on the reader takes one field after the other.
  rw [written_eq, hwritten]
  have hyear : i.date.year.natAbs < 10 ^ 4 := by omega
  apply bind_eq_of_eq_some (readNumber_padded (Nat.le_refl 4) (by omega) hyear _)
  apply bind_eq_of_eq_some (readChar_cons_self _ _)
  apply bind_eq_of_eq_some (readNumber_padded (Nat.le_refl 2) (by omega) hmonth _)
  apply bind_eq_of_eq_some (readChar_cons_self _ _)
  apply bind_eq_of_eq_some (readNumber_padded (Nat.le_refl 2) (by omega) hday _)
  apply bind_eq_of_eq_some (show readSeparator _ = some _ from rfl)
  apply bind_eq_of_eq_some (readNumber_padded (Nat.le_refl 2) (by omega) hhour _)
  apply bind_eq_of_eq_some (readChar_cons_self _ _)
  apply bind_eq_of_eq_some (readNumber_padded (Nat.le_refl 2) (by omega) hminute _)
  apply bind_eq_of_eq_some (readChar_cons_self _ _)
  apply bind_eq_of_eq_some (readNumber_padded (Nat.le_refl 2) (by omega) hsecond _)
  apply bind_eq_of_eq_some (readFraction_writtenFraction hnanos hzone.not_digit hzone.not_point)
  apply bind_eq_of_eq_some hzone.reads
  exact hfields

/-- A year that is not plain has a sign. -/
theorem writtenYear_of_signed {i : Instant} (hyear : ¬i.HasPlainYear) :
    ∃ sign, (sign = '-' ∨ sign = '+') ∧
      writtenYear i.date.year = sign :: Decimal.padded 4 i.date.year.natAbs := by
  have hsigned : ¬(0 ≤ i.date.year ∧ i.date.year ≤ 9999) := hyear
  by_cases hneg : i.date.year < 0
  · refine ⟨'-', .inl rfl, ?_⟩
    rw [writtenYear, if_neg hsigned, if_pos hneg]
  · refine ⟨'+', .inr rfl, ?_⟩
    rw [writtenYear, if_neg hsigned, if_neg hneg]

/-- The strict reader already misses the year. -/
theorem readZoned_of_signed {i : Instant} (hyear : ¬i.HasPlainYear) (separator : Char)
    (zone : List Char) : readZoned (i.written separator zone) = none := by
  obtain ⟨sign, hsign, hwritten⟩ := writtenYear_of_signed hyear
  have hnone : ∀ s : List Char, readNumber 4 (some 4) (sign :: s) = none := by
    intro s
    rcases hsign with rfl | rfl
    · rfl
    · rfl
  rw [written_eq, hwritten, List.cons_append, readZoned, hnone]
  rfl

/-- The lenient reader takes the year and all other fields, and stumbles over the
zone. -/
theorem readLocal_of_signed {i : Instant} (h : i.IsProper) (hyear : ¬i.HasPlainYear) :
    readLocal i.entryStamp = none := by
  obtain ⟨hmonth, hday, hhour, hminute, hsecond, hnanos⟩ := fields_lt h.nanos_lt
  obtain ⟨sign, hsign, hwritten⟩ := writtenYear_of_signed hyear
  have hdash : ∀ s : List Char, ∀ c ∈ ('-' :: s).head?, c.isDigit = false :=
    Text.forall_head?_cons rfl
  -- Whatever the sign, the year ends at the dash.
  obtain ⟨y, hread⟩ : ∃ y : Int, ∀ s, readYear (sign :: (Decimal.padded 4 i.date.year.natAbs ++
      '-' :: s)) = some (y, '-' :: s) := by
    rcases hsign with rfl | rfl
    · exact ⟨_, fun s => readYear_minus (hdash s)⟩
    · exact ⟨_, fun s => readYear_plus (hdash s)⟩
  rw [entryStamp, written_eq, hwritten, List.cons_append]
  apply bind_eq_of_eq_some (hread _)
  apply bind_eq_of_eq_some (readSpaced_cons_self (by decide) _)
  apply bind_eq_of_eq_some (readShort_padded hmonth _)
  apply bind_eq_of_eq_some (readSpaced_cons_self (by decide) _)
  apply bind_eq_of_eq_some (readShort_padded hday _)
  apply bind_eq_of_eq_some (readSpaced_cons_self (by decide) _)
  apply bind_eq_of_eq_some (readShort_padded hhour _)
  apply bind_eq_of_eq_some (readSpaced_cons_self (by decide) _)
  apply bind_eq_of_eq_some (readShort_padded hminute _)
  apply bind_eq_of_eq_some (readSpaced_cons_self (by decide) _)
  apply bind_eq_of_eq_some (readShort_padded hsecond _)
  apply bind_eq_of_eq_some (readFraction_writtenFraction hnanos isUtcZone_letter.not_digit
    isUtcZone_letter.not_point)
  -- What is left is the letter of the zone, where the text should end.
  rfl

/-- So no reader takes a stamp whose year has a sign. -/
theorem readEntryStamp_of_signed {i : Instant} (h : i.IsProper) (hyear : ¬i.HasPlainYear) :
    readEntryStamp i.entryStamp = none := by
  rw [readEntryStamp, entryStamp, readZoned_of_signed hyear]
  exact readLocal_of_signed h hyear

/-- A stamp is read back as the instant it was written for, or not at all if the
year has a sign. -/
theorem readEntryStamp_entryStamp {i : Instant} (h : i.IsProper) :
    readEntryStamp i.entryStamp = if i.HasPlainYear then some i else none := by
  split
  · next hyear =>
    have hread := readZoned_written h.nanos_lt hyear isUtcZone_letter
    rw [readEntryStamp, entryStamp, hread, reread_of_isProper h]
  · next hyear => exact readEntryStamp_of_signed h hyear

/-! ## What is read -/

/-- Offsets are in whole minutes. -/
theorem readZone_minutes {s rest : List Char} {offset : Int} (h : readZone s = some (offset, rest)) :
    ∃ minutes : Int, offset = minutes * 60 := by
  unfold readZone at h
  -- A letter stands for no offset; a signed one has hours and minutes.
  split at h
  · cases h
    exact ⟨0, rfl⟩
  · cases h
    exact ⟨0, rfl⟩
  · obtain ⟨⟨sign, _⟩, -, h⟩ := Option.bind_eq_some_iff.1 h
    obtain ⟨⟨hours, _⟩, -, h⟩ := Option.bind_eq_some_iff.1 h
    obtain ⟨_, -, h⟩ := Option.bind_eq_some_iff.1 h
    obtain ⟨⟨minutes, _⟩, -, h⟩ := Option.bind_eq_some_iff.1 h
    dsimp only at h
    split at h
    · cases h
      refine ⟨sign * (hours * 60 + minutes), ?_⟩
      rw [Int.mul_assoc]
      congr 1
      omega
    · cases h

theorem isProper_of_ofFields? {d : Date} {t : TimeOfDay} {m : Int} {i : Instant}
    (h : ofFields? d t (m * 60) = some i) : i.IsProper := by
  unfold ofFields? at h
  split at h
  · next hfields =>
    cases h
    exact isProper_ofFields hfields.2.2.2
  · cases h

/-- Whatever is read from a stamp is proper. -/
theorem isProper_of_readEntryStamp {s : List Char} {i : Instant} (h : readEntryStamp s = some i) :
    i.IsProper := by
  unfold readEntryStamp at h
  split at h
  · next hzoned =>
    cases h
    -- Year, month, day, hour, minute and second with what stands between, and the fraction.
    iterate 12 obtain ⟨_, -, hzoned⟩ := Option.bind_eq_some_iff.1 hzoned
    obtain ⟨⟨offset, _⟩, hzone, hzoned⟩ := Option.bind_eq_some_iff.1 hzoned
    obtain ⟨minutes, rfl⟩ := readZone_minutes hzone
    dsimp only at hzoned
    split at hzoned
    · exact isProper_of_ofFields? hzoned
    · cases hzoned
  · iterate 12 obtain ⟨_, -, h⟩ := Option.bind_eq_some_iff.1 h
    dsimp only at h
    split at h
    · exact isProper_of_ofFields? (m := 0) h
    · cases h

end Instant

end ChatDice
