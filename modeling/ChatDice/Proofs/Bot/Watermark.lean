import ChatDice.Bot.Watermark
import ChatDice.Proofs.Calendar.Order
import ChatDice.Proofs.Calendar.Stamps
import ChatDice.Proofs.Storage.Disk

/-! # Watermarks and restarts

    A watermark tells what is newer than all it has seen.  It is loaded again from
    the stamp that was written last: as the same instant, unless the stamp has a
    sign in front of its year, which the reader does not take, or is that of a leap
    second that ends no minute.

    - `isFresh_iff_of_max?`: what is fresh, by the instants that were seen.
    - `Run`: the moves of a watermark, all of them written to its file.
    - `load_of_run`: what is loaded after them, and when nothing is forgotten.
-/

namespace ChatDice

namespace Watermark

/-! ## What is fresh -/

theorem isFresh_iff {w : Watermark} {t : Instant} :
    w.isFresh t = true ↔ ∀ last ∈ w.last, last < t := by
  unfold isFresh
  cases w.last with
  | none => simp
  | some last => simp

theorem isFresh_eq_false_iff {w : Watermark} {t : Instant} :
    w.isFresh t = false ↔ ∃ last ∈ w.last, t ≤ last := by
  rw [← Bool.not_eq_true, isFresh_iff]
  push Not
  rfl

/-- A watermark at the newest of some instants tells what is newer than all of them. -/
theorem isFresh_iff_of_max? {w : Watermark} {times : List Instant} {t : Instant}
    (h : w.last = times.max?) : w.isFresh t = true ↔ ∀ t' ∈ times, t' < t := by
  rw [isFresh_iff, h]
  constructor
  · intro hlast t' ht'
    obtain ⟨newest, hnewest⟩ := Option.isSome_iff_exists.1 (List.isSome_max?_of_mem ht')
    have hle : t' ≤ newest := (List.max?_eq_some_iff.1 hnewest).2 t' ht'
    exact hle.trans_lt (hlast newest hnewest)
  · intro hall last hlast
    exact hall last (List.max?_mem hlast)

end Watermark

/-! ## Stamps in files -/

namespace Instant

/-- A year starts with a digit or a sign. -/
theorem head?_writtenYear (y : Int) (rest : List Char) :
    ∀ c ∈ (writtenYear y ++ rest).head?, Text.isBlank c = false := by
  unfold writtenYear
  split
  · have hdigits : ∀ c ∈ Decimal.padded 4 y.natAbs, Text.isBlank c = false := by
      intro c hc
      exact Text.isBlank_of_isDigit (Decimal.isDigit_of_mem_padded hc)
    exact Text.forall_head?_append (Decimal.padded_ne_nil 4 y.natAbs) hdigits rest
  · have hsign : Text.isBlank (if y < 0 then '-' else '+') = false := by
      split
      · decide
      · decide
    exact Text.forall_head?_cons hsign _

/-- There is no white space around a stamp. -/
theorem trim_watermarkStamp (i : Instant) : Text.trim i.watermarkStamp = i.watermarkStamp := by
  -- The stamp ends with the zero of its zone, and starts with a sign or a digit.
  have hlast : i.watermarkStamp.getLast? = some '0' := by
    rw [watermarkStamp, written, List.getLast?_append]
    rfl
  have hne : i.watermarkStamp ≠ [] := by
    intro hnil
    rw [hnil] at hlast
    cases hlast
  have htrim : Text.trim ([] ++ i.watermarkStamp ++ []) = i.watermarkStamp := by
    refine Text.trim_blanks (by simp) (by simp) hne ?_ ?_
    · rw [watermarkStamp, written_eq]
      exact head?_writtenYear _ _
    · intro c hc
      rw [hlast] at hc
      obtain rfl := Option.some.inj hc
      decide
  rwa [List.nil_append, List.append_nil] at htrim

end Instant

namespace Watermark

/-- What is loaded from a file with a stamp. -/
theorem load_of_read {d : Disk} {path : String} {i : Instant}
    (hnanos : i.nanos < 2 * Instant.nanosPerSecond)
    (hread : d.read path = .ok (String.ofList i.watermarkStamp)) :
    (load d path).1 = ⟨some path, if i.HasPlainYear then some i.reread else none⟩ := by
  unfold load
  rw [hread]
  dsimp only
  rw [String.toList_ofList, Instant.trim_watermarkStamp, Instant.watermarkStamp]
  by_cases hyear : i.HasPlainYear
  · rw [Instant.readZoned_written hnanos hyear Instant.isUtcZone_offset, if_pos hyear]
  · rw [Instant.readZoned_of_signed hyear, if_neg hyear]

theorem advance_of_fresh {w : Watermark} {t : Instant} (d : Disk) (h : w.isFresh t = true) :
    w.advance d t = ({ w with last := some t }, save d t w.path) := by
  rw [advance, if_pos h]

theorem advance_of_stale {w : Watermark} {t : Instant} (d : Disk) (h : w.isFresh t = false) :
    w.advance d t = (w, d, []) := by
  rw [advance, h]
  rfl

/-- The file holds the stamp if there was nothing to complain about. -/
theorem read_of_save {d : Disk} {t : Instant} {path : String}
    (h : (save d t (some path)).2 = []) :
    (save d t (some path)).1.read path = .ok (String.ofList t.watermarkStamp) := by
  unfold save at h ⊢
  dsimp only at h ⊢
  cases hwrite : d.write path (String.ofList t.watermarkStamp) with
  | ok d' => exact Disk.read_of_write hwrite
  | error e =>
    rw [hwrite] at h
    cases h

/-- A watermark and its disk after some moves from `w₀` and `d₀`, with their number.
Every move was written to the file without complaint, and between the calls the disk
changes only where the file is not. -/
inductive Run (w₀ : Watermark) (d₀ : Disk) : Nat → Watermark → Disk → Prop
  | start : Run w₀ d₀ 0 w₀ d₀
  | disk {n : Nat} {w : Watermark} {d : Disk} (run : Run w₀ d₀ n w d) {d' : Disk}
      (same : ∀ path ∈ w.path, d'.read path = d.read path) : Run w₀ d₀ n w d'
  | advance {n : Nat} {w : Watermark} {d : Disk} (run : Run w₀ d₀ n w d) {t : Instant}
      (ht : t.nanos < 2 * Instant.nanosPerSecond) (saved : (w.advance d t).2.2 = []) :
      Run w₀ d₀ (n + (w.isFresh t).toNat) (w.advance d t).1 (w.advance d t).2.1

/-- From the first move on the file holds the stamp of the watermark. -/
theorem read_of_run {w₀ w : Watermark} {d₀ d : Disk} {n : Nat} {path : String}
    (run : Run w₀ d₀ n w d) (hpath : w₀.path = some path) :
    w.path = some path ∧ (0 < n → ∃ last, w.last = some last ∧
      last.nanos < 2 * Instant.nanosPerSecond ∧
      d.read path = .ok (String.ofList last.watermarkStamp)) := by
  induction run with
  | start => exact ⟨hpath, fun h => absurd h (Nat.lt_irrefl 0)⟩
  | disk _ same ih =>
    obtain ⟨hw, hmoved⟩ := ih
    refine ⟨hw, fun h => ?_⟩
    obtain ⟨last, hlast, hnanos, hread⟩ := hmoved h
    exact ⟨last, hlast, hnanos, (same path hw).trans hread⟩
  | @advance n w d _ t ht saved ih =>
    obtain ⟨hw, hmoved⟩ := ih
    cases hfresh : w.isFresh t with
    | true =>
      rw [advance_of_fresh d hfresh, hw] at saved ⊢
      exact ⟨rfl, fun _ => ⟨t, rfl, ht, read_of_save saved⟩⟩
    | false =>
      -- Neither the watermark nor the file moves, so their stamps still agree.
      rw [advance_of_stale d hfresh]
      exact ⟨hw, hmoved⟩

/-- **What a restart makes of a watermark.**  After moves that were all written, at
least one of them, the file is loaded as the newest instant, or as nothing if its
year is not plain.  So the watermark is the same exactly if the year is plain and
the instant proper, and nothing becomes fresh again exactly if the year is plain. -/
theorem load_of_run {w₀ w : Watermark} {d₀ d : Disk} {n : Nat} {path : String}
    (run : Run w₀ d₀ n w d) (hpath : w₀.path = some path) (hmoved : 0 < n) :
    ∃ last, w.last = some last ∧
      (load d path).1 =
        { w with last := if last.HasPlainYear then some last.reread else none } ∧
      ((load d path).1 = w ↔ last.HasPlainYear ∧ last.IsProper) ∧
      ((∀ t, w.isFresh t = false → (load d path).1.isFresh t = false) ↔
        last.HasPlainYear) := by
  obtain ⟨hw, hfile⟩ := read_of_run run hpath
  obtain ⟨last, hlast, hnanos, hread⟩ := hfile hmoved
  have hload := load_of_read hnanos hread
  obtain ⟨_, _⟩ := w
  obtain rfl : _ = some path := hw
  obtain rfl : _ = some last := hlast
  refine ⟨last, rfl, hload, ?_, ?_⟩
  · rw [hload]
    by_cases hyear : last.HasPlainYear
    · simp [hyear, Instant.reread_eq_self_iff hnanos]
    · simp [hyear]
  · rw [hload]
    by_cases hyear : last.HasPlainYear
    · -- What is loaded is no earlier, so it makes no more instants fresh.
      simp only [hyear, if_true, iff_true]
      intro t ht
      rw [isFresh_eq_false_iff] at ht ⊢
      obtain ⟨last', hlast, hle⟩ := ht
      obtain rfl := Option.some.inj hlast
      exact ⟨last.reread, rfl, hle.trans (Instant.le_reread hnanos)⟩
    · simp only [hyear, if_false, iff_false]
      intro hstale
      -- The newest instant itself is fresh again.
      have := hstale last (isFresh_eq_false_iff.2 ⟨last, rfl, le_refl last⟩)
      cases this

/-- A watermark that has seen nothing. -/
def unmoved : Watermark := ⟨some "last_seen", none⟩

/-- Half a leap second is loaded as it was written; an older time did not move it. -/
theorem load_of_run_leap_second :
    let first := unmoved.advance .empty ⟨1483228799, 1500000000⟩
    let second := first.1.advance first.2.1 ⟨1483228799, 999999999⟩
    second.1.last = some ⟨1483228799, 1500000000⟩ ∧
      (load second.2.1 "last_seen").1 = second.1 := by
  intro first second
  have hfirst : Run unmoved .empty 1 first.1 first.2.1 := .advance .start (by decide) rfl
  have hsecond : Run unmoved .empty 1 second.1 second.2.1 :=
    .advance (t := ⟨1483228799, 999999999⟩) hfirst (by decide) rfl
  obtain ⟨last, hlast, -, hsame, -⟩ := load_of_run hsecond rfl (by decide)
  obtain rfl : _ = last := Option.some.inj hlast
  exact ⟨rfl, hsame.2 (by decide +kernel)⟩

/-- So not every restart keeps the watermark: the first second of the year 10000 is
fresh again. -/
theorem load_of_run_not_same :
    ¬ ∀ {w₀ w : Watermark} {d₀ d : Disk} {n : Nat} {path : String}, Run w₀ d₀ n w d →
      w₀.path = some path → 0 < n →
        (load d path).1.last = w.last ∧
          ∀ t, w.isFresh t = false → (load d path).1.isFresh t = false := by
  intro same
  have run : Run unmoved .empty 1 (unmoved.advance .empty ⟨253402300800, 0⟩).1
      (unmoved.advance .empty ⟨253402300800, 0⟩).2.1 := .advance .start (by decide) rfl
  have hstale := (same run rfl (by decide)).2 ⟨253402300800, 0⟩ (by decide)
  revert hstale
  decide +kernel

end Watermark

end ChatDice
