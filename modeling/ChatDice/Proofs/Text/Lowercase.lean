import ChatDice.Proofs.Text.Classes
import ChatDice.Text.Letter.Lowercase

/-! # Lower case of plain texts

    In a text of ASCII characters and white space only the ASCII letters have
    another lower-case form, whatever stands next to them.  Conversely a plain
    lower-case form comes from such a text, but for an i or a k in it.

    - `lowercase_eq_map`: the lower-case form, one character at a time.
    - `isBlank_toLower`: white space stays white space, and nothing becomes it.
    - `lowercaseAfter_append_inv`: where a plain start of a lower-case form is from.
    - `lowercase_map_toLower`: ASCII case does not matter in any text.
    - `SameButCase`: texts that differ in ASCII case only.
-/

namespace ChatDice.Text

/-! ## Single characters -/

/-- Only the 26 capital letters are changed by ASCII lower case. -/
theorem toLower_of_not_upper {c : Char} (hc : ¬ (65 ≤ c.toNat ∧ c.toNat ≤ 90)) :
    c.toLower = c := by
  unfold Char.toLower
  split
  · next h => exact absurd h hc
  · rfl

theorem toLower_of_not_ascii {c : Char} (hc : ¬ c.toNat < 128) : c.toLower = c :=
  toLower_of_not_upper (by omega)

/-- Only ASCII characters have ASCII lower-case forms. -/
theorem ascii_of_toLower {c : Char} (hc : c.toLower.toNat < 128) : c.toNat < 128 := by
  by_cases h : c.toNat < 128
  · exact h
  · rwa [toLower_of_not_ascii h] at hc

/-- What is the same for the two cases of the 26 letters is invariant under ASCII
lower case. -/
theorem eq_toLower_of_letters {α : Type} {f : Char → α}
    (h : ∀ n : Fin 26, f (Char.ofNat (n + 65)).toLower = f (Char.ofNat (n + 65))) (c : Char) :
    f c.toLower = f c := by
  by_cases hupper : 65 ≤ c.toNat ∧ c.toNat ≤ 90
  · have hletter := h ⟨c.toNat - 65, by omega⟩
    rw [Nat.sub_add_cancel hupper.1, Char.ofNat_toNat] at hletter
    exact hletter
  · rw [toLower_of_not_upper hupper]

theorem isBlank_toLower (c : Char) : isBlank c.toLower = isBlank c :=
  eq_toLower_of_letters (by decide) c

/-! ## The mapping above ASCII -/

/-- White space above ASCII, by code point. -/
def blanksAbove : List Nat :=
  [0x85, 0xA0, 0x1680, 0x2000, 0x2001, 0x2002, 0x2003, 0x2004, 0x2005, 0x2006, 0x2007, 0x2008,
    0x2009, 0x200A, 0x2028, 0x2029, 0x202F, 0x205F, 0x3000]

theorem mem_blanksAbove {n : Nat} (hblank : isBlankCode n = true) (hn : ¬ n < 128) :
    n ∈ blanksAbove := by
  simp only [isBlankCode, Bool.or_eq_true, Bool.and_eq_true, decide_eq_true_eq, beq_iff_eq]
    at hblank
  simp only [blanksAbove, List.mem_cons, List.not_mem_nil, or_false]
  omega

/-- White space above ASCII has no other lower-case form. -/
theorem lowercaseCode_of_blank {n : Nat} (hblank : isBlankCode n = true) (hn : ¬ n < 128) :
    lowercaseCode n = n := by
  have unmapped : ∀ n ∈ blanksAbove, lowercaseCode n = n := by decide +kernel
  exact unmapped n (mem_blanksAbove hblank hn)

/-- All code points that a range gives are those of characters above ASCII, and no
white space. -/
def LeadsAbove (r : CaseRange) : Prop :=
  128 ≤ r.first + r.shift ∧ r.last + r.shift < 0x110000 ∧
    (r.last + r.shift < 0xD800 ∨ 0xDFFF < r.first + r.shift) ∧
    ∀ n ∈ blanksAbove, ¬ (r.first + r.shift ≤ n ∧ n ≤ r.last + r.shift)

instance (r : CaseRange) : Decidable (LeadsAbove r) := inferInstanceAs (Decidable (_ ∧ _))

/-- Only the kelvin sign is mapped into ASCII. -/
theorem leadsAbove_of_mem :
    ∀ r ∈ lowercaseRanges, (r.first = 0x212A ∧ r.last = 0x212A) ∨ LeadsAbove r := by
  decide +kernel

/-- The kelvin sign apart, what is mapped to another character is mapped to one above
ASCII that is no white space. -/
theorem lowercaseCode_above {n : Nat} (hkelvin : n ≠ 0x212A) :
    lowercaseCode n = n ∨
      128 ≤ lowercaseCode n ∧ (lowercaseCode n).isValidChar ∧
        isBlankCode (lowercaseCode n) = false := by
  unfold lowercaseCode
  cases hfound : lowercaseRanges.find? (·.covers n) with
  | none => exact .inl rfl
  | some r =>
    right
    have hcovers : r.covers n = true := by simpa using List.find?_some hfound
    simp only [CaseRange.covers, Bool.and_eq_true, decide_eq_true_eq, beq_iff_eq] at hcovers
    obtain ⟨⟨hfirst, hlast⟩, -⟩ := hcovers
    -- The table was checked as a whole; the kelvin sign is its only exception.
    rcases leadsAbove_of_mem r (List.mem_of_find?_eq_some hfound) with ⟨h, h'⟩ | habove
    · exact absurd (Nat.le_antisymm (h' ▸ hlast) (h ▸ hfirst)) hkelvin
    · obtain ⟨hascii, hmax, hsurrogate, hblanks⟩ := habove
      have hbig : ¬ ((n : Int) + r.shift).toNat < 128 := by omega
      dsimp only
      refine ⟨Nat.le_of_not_lt hbig, ?_, ?_⟩
      · show _ < 0xD800 ∨ 0xDFFF < _ ∧ _ < 0x110000
        omega
      · rw [← Bool.not_eq_true]
        intro hblank
        exact hblanks _ (mem_blanksAbove hblank hbig) (by omega)

/-! ## Whole texts -/

/-- A character of a plain text has its ASCII lower-case form. -/
theorem lowercaseChar_eq {c : Char} (hc : c.toNat < 128 ∨ isBlank c = true) :
    lowercaseChar c = [c.toLower] := by
  by_cases h : c.toNat < 128
  · rw [lowercaseChar, if_pos h]
  · have hblank : isBlank c = true := hc.resolve_left h
    have hdotted : c ≠ 'İ' := by
      rintro rfl
      exact absurd hblank (by decide)
    rw [lowercaseChar, if_neg h, if_neg hdotted, lowercaseCode_of_blank hblank h, Char.ofNat_toNat,
      toLower_of_not_ascii h]

theorem lowercaseAfter_eq_map {s : List Char} (hs : ∀ c ∈ s, c.toNat < 128 ∨ isBlank c = true)
    (before : List Char) : lowercaseAfter before s = s.map Char.toLower := by
  induction s generalizing before with
  | nil => rfl
  | cons c s ih =>
    have hc := hs c (by simp)
    -- The capital sigma, which looks at its neighbours, is neither ASCII nor white space.
    have hsigma : c ≠ 'Σ' := by
      rintro rfl
      exact absurd hc (by decide)
    rw [lowercaseAfter, if_neg hsigma, lowercaseChar_eq hc,
      ih (fun d hd => hs d (List.mem_cons_of_mem _ hd)), List.map_cons, List.singleton_append]

/-- The lower-case form of a plain text, one character at a time. -/
theorem lowercase_eq_map {s : List Char} (hs : ∀ c ∈ s, c.toNat < 128 ∨ isBlank c = true) :
    lowercase s = s.map Char.toLower :=
  lowercaseAfter_eq_map hs []

/-! ## Texts with a plain lower-case form -/

/-- White space, and the ASCII characters that are the lower-case form of ASCII
characters only: the dotted capital I starts with an i, the kelvin sign becomes a k. -/
def IsSteady (d : Char) : Prop := isBlank d = true ∨ d.toNat < 128 ∧ d ≠ 'i' ∧ d ≠ 'k'

instance (d : Char) : Decidable (IsSteady d) := inferInstanceAs (Decidable (_ ∨ _))

/-- A steady character comes from one that is the same up to ASCII case. -/
theorem lowercaseAfter_cons_inv {before s tail : List Char} {d : Char} (hd : IsSteady d)
    (h : lowercaseAfter before s = d :: tail) :
    ∃ c rest, s = c :: rest ∧ c.toLower = d ∧ lowercaseAfter (c :: before) rest = tail := by
  match s with
  | [] => cases h
  | c :: rest =>
    refine ⟨c, rest, rfl, ?_⟩
    rw [lowercaseAfter] at h
    split at h
    · -- Neither form of the sigma is steady.
      obtain ⟨rfl, -⟩ := List.cons.inj h
      split at hd
      · exact absurd hd (by decide)
      · exact absurd hd (by decide)
    · next hsigma =>
      rw [lowercaseChar] at h
      split at h
      · exact List.cons.inj h
      · next hc =>
        split at h
        · obtain ⟨rfl, -⟩ := List.cons.inj h
          exact absurd hd (by decide)
        · obtain ⟨rfl, hrest⟩ := List.cons.inj h
          refine ⟨?_, hrest⟩
          by_cases hkelvin : c.toNat = 0x212A
          · rw [hkelvin] at hd
            exact absurd hd (by decide +kernel)
          · rcases lowercaseCode_above hkelvin with hsame | ⟨hbig, hvalid, hblank⟩
            · rw [hsame, Char.ofNat_toNat, toLower_of_not_ascii hc]
            · -- The lower-case form is neither white space nor ASCII.
              have hcode : (Char.ofNat (lowercaseCode c.toNat)).toNat = lowercaseCode c.toNat := by
                rw [Char.ofNat, dif_pos hvalid]
                rfl
              rcases hd with hd | ⟨hd, -⟩
              · rw [isBlank, hcode, hblank] at hd
                cases hd
              · omega

/-- Steady characters come from a text that is the same up to ASCII case. -/
theorem lowercaseAfter_append_inv {before s word tail : List Char}
    (hword : ∀ d ∈ word, IsSteady d) (h : lowercaseAfter before s = word ++ tail) :
    ∃ start rest, s = start ++ rest ∧ start.map Char.toLower = word ∧
      lowercaseAfter (start.reverse ++ before) rest = tail := by
  induction word generalizing before s with
  | nil => exact ⟨[], s, rfl, rfl, h⟩
  | cons d word ih =>
    obtain ⟨c, s, rfl, hc, hafter⟩ := lowercaseAfter_cons_inv (hword d List.mem_cons_self) h
    obtain ⟨start, rest, rfl, hstart, hrest⟩ :=
      ih (fun d hd => hword d (List.mem_cons_of_mem _ hd)) hafter
    refine ⟨c :: start, rest, rfl, by rw [List.map_cons, hc, hstart], ?_⟩
    rw [List.reverse_cons, List.append_assoc]
    exact hrest

/-! ## Texts that are the same up to ASCII case -/

theorem leadsToCased_map_toLower (s : List Char) :
    leadsToCased (s.map Char.toLower) = leadsToCased s := by
  have ignorable := eq_toLower_of_letters (f := fun c => inRanges caseIgnorableRanges c.toNat)
    (by decide +kernel)
  have cased := eq_toLower_of_letters (f := fun c => inRanges casedRanges c.toNat)
    (by decide +kernel)
  have hdrop : ((fun c : Char => inRanges caseIgnorableRanges c.toNat) ∘ Char.toLower) =
      fun c => inRanges caseIgnorableRanges c.toNat := funext ignorable
  rw [leadsToCased, leadsToCased, List.dropWhile_map, hdrop]
  cases s.dropWhile fun c => inRanges caseIgnorableRanges c.toNat with
  | nil => rfl
  | cons c s => exact cased c

theorem endsWord_map_toLower (before after : List Char) :
    endsWord (before.map Char.toLower) (after.map Char.toLower) = endsWord before after := by
  rw [endsWord, leadsToCased_map_toLower, leadsToCased_map_toLower, endsWord]

theorem lowercaseAfter_map_toLower (before s : List Char) :
    lowercaseAfter (before.map Char.toLower) (s.map Char.toLower) = lowercaseAfter before s := by
  induction s generalizing before with
  | nil => rfl
  | cons c s ih =>
    have hrest := ih (c :: before)
    rw [List.map_cons] at hrest
    have hchar : lowercaseChar c.toLower = lowercaseChar c := eq_toLower_of_letters (by decide) c
    have hsigma : decide (c.toLower = 'Σ') = decide (c = 'Σ') :=
      eq_toLower_of_letters (f := fun c => decide (c = 'Σ')) (by decide) c
    rw [decide_eq_decide] at hsigma
    rw [List.map_cons, lowercaseAfter, lowercaseAfter, hrest, hchar, endsWord_map_toLower]
    simp only [hsigma]

/-- The lower-case form does not depend on the case of ASCII letters, not even where
it looks at the neighbours of a sigma. -/
theorem lowercase_map_toLower (s : List Char) : lowercase (s.map Char.toLower) = lowercase s :=
  lowercaseAfter_map_toLower [] s

/-- Texts that are the same up to the case of ASCII letters. -/
def SameButCase (s t : List Char) : Prop := s.map Char.toLower = t.map Char.toLower

instance (s t : List Char) : Decidable (SameButCase s t) :=
  inferInstanceAs (Decidable (_ = (_ : List Char)))

namespace SameButCase

variable {s t : List Char}

theorem symm (h : SameButCase s t) : SameButCase t s := Eq.symm h

theorem lowercase_eq (h : SameButCase s t) : lowercase s = lowercase t := by
  rw [← lowercase_map_toLower s, h, lowercase_map_toLower]

/-- White space is the same in both. -/
theorem dropBlanks (h : SameButCase s t) :
    SameButCase (s.dropWhile isBlank) (t.dropWhile isBlank) := by
  have hblank : isBlank ∘ Char.toLower = isBlank := funext isBlank_toLower
  have hdrop : ∀ u : List Char,
      (u.dropWhile isBlank).map Char.toLower = (u.map Char.toLower).dropWhile isBlank := by
    intro u
    rw [List.dropWhile_map, hblank]
  rw [SameButCase, hdrop, hdrop, h]

theorem reverse (h : SameButCase s t) : SameButCase s.reverse t.reverse := by
  rw [SameButCase, List.map_reverse, List.map_reverse, h]

theorem trim (h : SameButCase s t) : SameButCase (trim s) (trim t) :=
  h.dropBlanks.reverse.dropBlanks.reverse

end SameButCase

end ChatDice.Text
