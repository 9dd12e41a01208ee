import ChatDice.Proofs.Dice.Streams
import ChatDice.Proofs.Dice.Totals

/-! # The first extreme die

    A drop roll and a keep roll pick the same die: the first one that shows the highest or
    lowest face.  One roll leaves out what the other counts, so their totals add up to
    that of a normal roll.

    - `IsFirstExtreme`: the place of the die that is to be picked.
    - `isBest_pickStep`: every step of the picking loop keeps the first extreme die so far.
    - `pick_map_range`: so the loop picks that die, whatever the faces.
    - `kept_markedAt_dropMark`, `kept_markedAt_keepMark`: the dice that count when one is marked.
    - `marked_faces`: a roll that marks it, told by the stream.
    - `exactSum_marks`, `toInt_total_complement`: each face counts in one of the two rolls.
    - `firstExtreme_dropped_kept`: what drop and keep rolls come to, for every stream.
-/

namespace ChatDice

open UnendingSource

/-! ## Picking a die -/

/-- One face is at least as extreme as another. -/
def Pool.Extreme.Reaches : Pool.Extreme → UInt16 → UInt16 → Prop
  | .high, a, b => b ≤ a
  | .low,  a, b => a ≤ b

namespace Pool

instance (e : Extreme) (a b : UInt16) : Decidable (e.Reaches a b) :=
  match e with
  | .high => inferInstanceAs (Decidable (b ≤ a))
  | .low  => inferInstanceAs (Decidable (a ≤ b))

/-- Of the first `n` values of a sequence, the one at `m` is extreme, and there is none
like it before. -/
structure IsFirstExtreme (e : Extreme) (v : Nat → UInt16) (n m : Nat) : Prop where
  lt      : m < n
  extreme : ∀ i < n, e.Reaches (v m) (v i)
  first   : ∀ i < m, v i ≠ v m

/-- Faces that reach each other are the same. -/
theorem Extreme.eq_of_reaches {e : Extreme} {a b : UInt16} (hab : e.Reaches a b)
    (hba : e.Reaches b a) : a = b := by
  cases e with
  | high => exact UInt16.le_antisymm hba hab
  | low => exact UInt16.le_antisymm hab hba

/-- There is only one such place. -/
theorem IsFirstExtreme.unique {e : Extreme} {v : Nat → UInt16} {n m m' : Nat}
    (h : IsFirstExtreme e v n m) (h' : IsFirstExtreme e v n m') : m = m' := by
  have hsame : v m = v m' := Extreme.eq_of_reaches (h.extreme m' h'.lt) (h'.extreme m h.lt)
  rcases Nat.lt_trichotomy m m' with hlt | heq | hgt
  · exact absurd hsame (h'.first m hlt)
  · exact heq
  · exact absurd hsame.symm (h.first m' hgt)

/-! ## The picking loop -/

theorem Extreme.reaches_refl (e : Extreme) (a : UInt16) : e.Reaches a a := by
  cases e with
  | high => exact UInt16.le_refl a
  | low => exact UInt16.le_refl a

theorem Extreme.reaches_trans {e : Extreme} {a b c : UInt16} (hab : e.Reaches a b)
    (hbc : e.Reaches b c) : e.Reaches a c := by
  cases e with
  | high => exact UInt16.le_trans hbc hab
  | low => exact UInt16.le_trans hab hbc

/-- A face beats another one exactly if that one does not reach it. -/
theorem Extreme.beats_iff {e : Extreme} {a b : UInt16} : e.beats a b = true ↔ ¬ e.Reaches b a := by
  cases e with
  | high => exact decide_eq_true_iff.trans UInt16.not_le.symm
  | low => exact decide_eq_true_iff.trans UInt16.not_le.symm

/-- A face that beats another one reaches it. -/
theorem Extreme.reaches_of_beats {e : Extreme} {a b : UInt16} (h : e.beats a b = true) :
    e.Reaches a b := by
  cases e with
  | high => exact UInt16.le_of_lt (of_decide_eq_true h)
  | low => exact UInt16.le_of_lt (of_decide_eq_true h)

/-- What the loop knows after the first `n` values of a sequence: `best` is the place of
their first extreme one, and its value. -/
structure IsBest (e : Extreme) (v : Nat → UInt16) (n : Nat) (best : Nat × UInt16) : Prop where
  shown : best.2 = v best.1
  first : IsFirstExtreme e v n best.1

/-- Before the loop the first value is the best, as it is the only one. -/
theorem isBest_first (e : Extreme) (v : Nat → UInt16) : IsBest e v 1 (0, v 0) := by
  refine ⟨rfl, Nat.one_pos, ?_, ?_⟩
  · intro i hi
    obtain rfl := Nat.lt_one_iff.1 hi
    exact e.reaches_refl (v 0)
  · intro i hi
    exact absurd hi (Nat.not_lt_zero i)

/-- Every step of the loop keeps this for one value more. -/
theorem isBest_pickStep {e : Extreme} {v : Nat → UInt16} {k : Nat} {best : Nat × UInt16}
    (h : IsBest e v (k + 1) best) : IsBest e v (k + 2) (pickStep e.beats best (v (k + 1), k)) := by
  obtain ⟨hshown, hlt, hextreme, hfirst⟩ := h
  rw [pickStep, hshown]
  split
  · next hbeats =>
    -- The new value is past all others, so none of them is equal to it.
    refine ⟨rfl, Nat.lt_succ_self _, ?_, ?_⟩
    · intro i hi
      rcases Nat.lt_succ_iff_lt_or_eq.1 hi with hbefore | rfl
      · exact Extreme.reaches_trans (Extreme.reaches_of_beats hbeats) (hextreme i hbefore)
      · exact e.reaches_refl _
    · intro i hi hsame
      have hreached := hextreme i hi
      rw [hsame] at hreached
      exact Extreme.beats_iff.1 hbeats hreached
  · next hbeaten =>
    -- On a tie the earlier place stays.
    refine ⟨hshown, Nat.lt_succ_of_lt hlt, ?_, hfirst⟩
    intro i hi
    rcases Nat.lt_succ_iff_lt_or_eq.1 hi with hbefore | rfl
    · exact hextreme i hbefore
    · exact Decidable.not_not.1 fun hnot => hbeaten (Extreme.beats_iff.2 hnot)

/-- So after the loop the best is that of all values. -/
theorem isBest_foldl (e : Extreme) (v : Nat → UInt16) (k : Nat) :
    IsBest e v (k + 1)
      ((((List.range k).map fun i => v (i + 1)).zipIdx).foldl (pickStep e.beats) (0, v 0)) := by
  induction k with
  | zero => exact isBest_first e v
  | succ k ih =>
    -- The last value of the tail has place `k` there, and is number `k + 1` of all.
    rw [List.range_succ, List.map_append, List.zipIdx_append, List.foldl_append, List.length_map,
      List.length_range, Nat.zero_add]
    exact isBest_pickStep ih

/-- Of the first values of a sequence the loop picks the first extreme one. -/
theorem pick_map_range (e : Extreme) (v : Nat → UInt16) {n : Nat} (h : 0 < n) :
    ∃ m, pick e.beats ((List.range n).map v) = some m ∧ IsFirstExtreme e v n m := by
  obtain ⟨k, rfl⟩ := Nat.exists_eq_add_one_of_ne_zero (Nat.ne_of_gt h)
  rw [List.range_succ_eq_map, List.map_cons, List.map_map]
  exact ⟨_, rfl, (isBest_foldl e v k).first⟩

/-- What is picked is one of the dice. -/
theorem lt_length_of_pick {e : Extreme} {faces : List UInt16} {m : Nat}
    (h : pick e.beats faces = some m) : m < faces.length := by
  -- A list of faces is a sequence of them up to its length.
  have hfaces : (List.range faces.length).map (fun i => faces.getD i 0) = faces := by
    apply List.ext_getElem
    · simp
    · intro i hi hlt
      simp [hlt]
  have hne : faces ≠ [] := by
    intro hnil
    rw [hnil] at h
    cases h
  obtain ⟨m', hpicked, hfirst⟩ :=
    pick_map_range e (fun i => faces.getD i 0) (List.length_pos_of_ne_nil hne)
  rw [hfaces, h] at hpicked
  obtain rfl := Option.some.inj hpicked
  exact hfirst.lt

/-! ## Marking dice -/

variable {σ : Type} [DieSource σ] [UnendingSource σ]

/-- The outcome of faces that are marked by whether they stand at `m`. -/
def markedAt (m : Nat) (mark : Bool → UInt16 → DieResult) (faces : List UInt16)
    (modifier : Int16) : Outcome :=
  .ofDice (faces.mapIdx fun i v => mark (i == m) v) modifier

theorem dice_markedAt (m : Nat) (mark : Bool → UInt16 → DieResult) (s : σ) (sides : UInt16)
    (n : Nat) (modifier : Int16) :
    (markedAt m mark (faces s sides n) modifier).dice =
      (List.range n).map fun i => mark (i == m) (face s sides i) := by
  apply List.ext_getElem
  · simp [markedAt, Outcome.ofDice]
  · intro i _ _
    simp [markedAt, Outcome.ofDice, faces]

/-- In the tail every place is one less. -/
theorem succ_beq_succ (i m : Nat) : (i + 1 == m + 1) = (i == m) := by
  rw [Bool.eq_iff_iff, beq_iff_eq, beq_iff_eq, Nat.add_right_cancel_iff]

/-- All dice count but the one that is dropped. -/
theorem kept_markedAt_dropMark (m : Nat) (faces : List UInt16) (modifier : Int16) :
    (markedAt m dropMark faces modifier).kept = faces.eraseIdx m := by
  show (faces.mapIdx fun i v => dropMark (i == m) v).filterMap DieResult.face? = _
  induction faces generalizing m with
  | nil => rfl
  | cons v faces ih =>
    rw [List.mapIdx_cons]
    -- The marked die is the first one, or it is in the tail.
    cases m with
    | zero =>
      have hdropped : (dropMark true v).face? = none := rfl
      have hothers : (faces.mapIdx fun _ v => dropMark false v) = faces.map .counted := by
        apply List.ext_getElem <;> simp [dropMark]
      show (dropMark true v :: faces.mapIdx fun _ v => dropMark false v).filterMap _ = faces
      rw [List.filterMap_cons_none hdropped, hothers]
      exact Outcome.kept_ofFaces faces modifier
    | succ m =>
      have hcounted : (dropMark false v).face? = some v := rfl
      show (dropMark false v :: faces.mapIdx fun i v => dropMark (i + 1 == m + 1) v).filterMap _ = _
      simp only [succ_beq_succ]
      rw [List.filterMap_cons_some hcounted, List.eraseIdx_cons_succ, ih]

/-- Only the die that is kept counts. -/
theorem kept_markedAt_keepMark {m : Nat} {faces : List UInt16} (h : m < faces.length)
    (modifier : Int16) : (markedAt m keepMark faces modifier).kept = [faces[m]] := by
  show (faces.mapIdx fun i v => keepMark (i == m) v).filterMap DieResult.face? = _
  induction faces generalizing m with
  | nil => exact absurd h (Nat.not_lt_zero m)
  | cons v faces ih =>
    rw [List.mapIdx_cons]
    cases m with
    | zero => simp [keepMark, DieResult.face?]
    | succ m =>
      have hleft : (keepMark false v).face? = none := rfl
      show (keepMark false v :: faces.mapIdx fun i v => keepMark (i + 1 == m + 1) v).filterMap _ = _
      simp only [succ_beq_succ]
      rw [List.filterMap_cons_none hleft]
      exact ih (Nat.lt_of_succ_lt_succ h)

/-- A roll that marks the first extreme die draws every die once. -/
theorem marked_faces {p : Pool} (h : 0 < p.count) (e : Extreme) (s : σ) :
    ∃ m, IsFirstExtreme e (face s p.die.sides) p.count.toNat m ∧
      ∀ kind mark modifier, p.marked e kind mark modifier s =
        (.ok (markedAt m mark (faces s p.die.sides p.count.toNat) modifier),
          after s p.die.sides p.count.toNat) := by
  have hcount : 0 < p.count.toNat := UInt16.lt_iff_toNat_lt.1 h
  obtain ⟨m, hpicked, hfirst⟩ := pick_map_range e (face s p.die.sides) hcount
  have hm : pick e.beats (faces s p.die.sides p.count.toNat) = some m := hpicked
  refine ⟨m, hfirst, ?_⟩
  intro kind mark modifier
  rw [marked, drawAll_faces]
  dsimp only
  rw [List.reverse_reverse, hm]
  rfl

/-! ## Totals -/

variable {m : Nat} {faces : List UInt16}

theorem toInt_total_markedAt (h : faces.length < 2 ^ 47) (mark : Bool → UInt16 → DieResult)
    (modifier : Int16) :
    (markedAt m mark faces modifier).total.toInt =
      exactSum (markedAt m mark faces modifier).kept + modifier.toInt := by
  refine Outcome.toInt_total_ofDice (Outcome.fits_of_length_lt ?_ modifier)
  refine Nat.lt_of_le_of_lt (List.length_filterMap_le _ _) ?_
  show (faces.mapIdx _).length < 2 ^ 47
  rwa [List.length_mapIdx]

/-- Whatever dice are picked, each face counts either if they are dropped or if they are
all that is kept. -/
theorem exactSum_marks (picked : Nat → Bool) (faces : List UInt16) :
    exactSum ((faces.mapIdx fun i v => dropMark (picked i) v).filterMap DieResult.face?) +
      exactSum ((faces.mapIdx fun i v => keepMark (picked i) v).filterMap DieResult.face?) =
    exactSum faces := by
  -- In the tail every place counts one less, so the induction is for all choices.
  induction faces generalizing picked with
  | nil => rfl
  | cons v faces ih =>
    have hrest := ih fun i => picked (i + 1)
    rw [List.mapIdx_cons, List.mapIdx_cons, exactSum_cons]
    cases picked 0 with
    | true =>
      have hdropped : (dropMark true v).face? = none := rfl
      have hkept : (keepMark true v).face? = some v := rfl
      rw [List.filterMap_cons_none hdropped, List.filterMap_cons_some hkept, exactSum_cons]
      omega
    | false =>
      have hdropped : (dropMark false v).face? = some v := rfl
      have hkept : (keepMark false v).face? = none := rfl
      rw [List.filterMap_cons_some hdropped, List.filterMap_cons_none hkept, exactSum_cons]
      omega

/-- The modifier is added in both rolls, and once in a normal one. -/
theorem toInt_total_complement (h : faces.length < 2 ^ 47) (m : Nat) (modifier : Int16) :
    (markedAt m dropMark faces modifier).total.toInt +
        (markedAt m keepMark faces modifier).total.toInt =
      (Outcome.ofFaces faces modifier).total.toInt + modifier.toInt := by
  have hsum : exactSum (markedAt m dropMark faces modifier).kept +
      exactSum (markedAt m keepMark faces modifier).kept = exactSum faces :=
    exactSum_marks (· == m) faces
  rw [toInt_total_markedAt h, toInt_total_markedAt h,
    Outcome.toInt_total_ofFaces (Outcome.fits_of_length_lt h modifier), ← hsum]
  omega

/-! ## Drop and keep rolls -/

/-- **Drop and keep rolls pick the first extreme die, and complete each other.**  In a
pool with dice one is the first to show the extreme face of the stream.  The drop roll
drops it and counts all others; the keep roll counts it and leaves out all others.  Both
draw each die once, as a normal roll does, and their totals are exact; together they
make the total of the normal roll, with the modifier once more. -/
theorem firstExtreme_dropped_kept (p : Pool) (h : 0 < p.count) (e : Extreme) (modifier : Int16)
    (s : σ) :
    let n := p.count.toNat
    let v := face s p.die.sides
    ∃ m dropped kept all, IsFirstExtreme e v n m ∧
      p.dropOne e modifier s = (.ok dropped, after s p.die.sides n) ∧
      dropped.dice = (List.range n).map (fun i => if i = m then .dropped else .counted (v i)) ∧
      dropped.modifier = modifier ∧
      dropped.total.toInt = exactSum dropped.kept + modifier.toInt ∧
      p.keepOne e modifier s = (.ok kept, after s p.die.sides n) ∧
      kept.dice = (List.range n).map (fun i => if i = m then .counted (v i) else .keptOut) ∧
      kept.modifier = modifier ∧
      kept.total.toInt = exactSum kept.kept + modifier.toInt ∧
      p.normal modifier s = (.ok all, after s p.die.sides n) ∧
      dropped.total.toInt + kept.total.toInt = all.total.toInt + modifier.toInt := by
  intro n v
  have hlength : (UnendingSource.faces s p.die.sides p.count.toNat).length < 2 ^ 47 := by
    have hcount := p.count.toNat_lt
    rw [length_faces]
    omega
  -- Both rolls mark the same die; only the marks differ.
  obtain ⟨m, hfirst, hmarked⟩ := marked_faces h e s
  refine ⟨m, _, _, _, hfirst, hmarked _ dropMark modifier, ?_, rfl,
    toInt_total_markedAt hlength dropMark modifier, hmarked _ keepMark modifier, ?_, rfl,
    toInt_total_markedAt hlength keepMark modifier, p.normal_faces modifier s,
    toInt_total_complement hlength m modifier⟩
  · refine (dice_markedAt m dropMark s p.die.sides n modifier).trans (List.map_congr_left ?_)
    intro i _
    simp only [dropMark, beq_iff_eq]
    rfl
  · refine (dice_markedAt m keepMark s p.die.sides n modifier).trans (List.map_congr_left ?_)
    intro i _
    simp only [keepMark, beq_iff_eq]
    rfl

/-- A tape with two fives among its first four faces. -/
def fivesTape : Tape := ⟨fun i => [2, 5, 1, 5].getD i 0, 0⟩

/-- Four dice of six sides. -/
def fourDice : Pool := ⟨4, sixSided, 0⟩

/-- Of the two fives it is the first that is dropped or kept. -/
theorem firstExtreme_dropped_kept_tie :
    (∃ o, fourDice.dropOne .high 1 fivesTape = (.ok o, { fivesTape with drawn := 4 }) ∧
      o.dice = [.counted 2, .dropped, .counted 1, .counted 5] ∧ o.total.toInt = 9) ∧
    ∃ o, fourDice.keepOne .high 1 fivesTape = (.ok o, { fivesTape with drawn := 4 }) ∧
      o.dice = [.keptOut, .counted 5, .keptOut, .keptOut] ∧ o.total.toInt = 6 := by
  obtain ⟨m, dropped, kept, _, hfirst, hdrop, hdropped, -, hdropTotal, hkeep, hkept, -, hkeepTotal,
    -⟩ := firstExtreme_dropped_kept fourDice (by decide) .high 1 fivesTape
  -- No other place is that of the first five.
  have hm : m = 1 := hfirst.unique ⟨by decide, by decide, by decide⟩
  subst hm
  have hdroppedDice : dropped.dice = [.counted 2, .dropped, .counted 1, .counted 5] :=
    hdropped.trans (by decide)
  have hkeptDice : kept.dice = [.keptOut, .counted 5, .keptOut, .keptOut] :=
    hkept.trans (by decide)
  rw [after_tape] at hdrop hkeep
  refine ⟨⟨dropped, hdrop, hdroppedDice, ?_⟩, kept, hkeep, hkeptDice, ?_⟩
  · rw [hdropTotal, Outcome.kept, hdroppedDice]
    decide
  · rw [hkeepTotal, Outcome.kept, hkeptDice]
    decide

end Pool

end ChatDice
