import ChatDice.Proofs.Command.Acceptance
import ChatDice.Proofs.Command.Layout
import ChatDice.Proofs.Text.Lowercase

/-! # Displayed requests read back

    The display form of a request is read as this request, less a threshold that is not
    displayed, if none of its numbers has more than three digits.  If one has, the display
    form is refused: no number is cut off after its third digit, for what would be left of
    it is not the start of another part.

    - `Fits`: requests whose displayed numbers have at most three digits.
    - `Fits.spelled`, `fits_of_spelled`: just their display forms can be typed.
    - `read_written_iff`: what a display form is read as.
    - `read_text_iff`: the requests that read back as they are, among them all that were
      typed.
-/

namespace ChatDice.Request

open Command

/-! ## Lower case -/

/-- The characters of display forms. -/
theorem mem_chars_layout {w : Layout} {c : Char} (h : c ∈ w.chars) :
    c.isDigit = true ∨ c ∈ ['d', 'e', 'h', 'i', 'k', 'l', '+', '-'] := by
  have hsuffix : ∀ k : RollKind, ∀ c ∈ k.suffix, c ∈ ['d', 'e', 'h', 'i', 'k', 'l', '+', '-'] := by
    intro k
    cases k <;> simp [RollKind.suffix]
  simp only [Layout.chars, List.mem_append, List.mem_cons] at h
  -- Part by part, in the order in which they are written.
  rcases h with h | rfl | h | h | h | h
  · exact .inl (w.isDigit_count c h)
  · exact .inr (by decide)
  · exact .inl (w.isDigit_sides c h)
  · rcases w.isModifier with hm | ⟨sign, ds, hm, hsign, hds⟩
    · rw [hm] at h
      cases h
    · rw [hm] at h
      rcases List.mem_cons.1 h with rfl | h
      · exact .inr (List.mem_append_right ['d', 'e', 'h', 'i', 'k', 'l'] hsign)
      · exact .inl (hds c h)
  · exact .inr (hsuffix w.kind c h)
  · exact .inl (w.isDigit_threshold c h)

/-- Display forms are in lower case. -/
theorem lowercase_written (q : Request) : Text.lowercase q.written = q.written := by
  have hplain : ∀ c ∈ q.written, c.toNat < 128 ∧ c.toLower = c := by
    intro c hc
    rw [← chars_layout] at hc
    rcases mem_chars_layout hc with hdigit | hletter
    · have hascii : c.toNat < 128 := by
        apply Text.ascii_of_isAlphanum
        rw [Char.isAlphanum, hdigit, Bool.or_true]
      exact ⟨hascii, Text.of_ascii (P := fun c => c.isDigit = true → c.toLower = c) (by decide)
        hascii hdigit⟩
    · have hletters : ['d', 'e', 'h', 'i', 'k', 'l', '+', '-'].all
          (fun d => d.toNat < 128 ∧ d.toLower = d) = true := by decide
      exact of_decide_eq_true (List.all_eq_true.1 hletters c hletter)
  -- On ASCII lower case goes character by character, and each is its own.
  rw [Text.lowercase_eq_map fun c hc => .inl (hplain c hc).1]
  exact (List.map_congr_left fun c hc => (hplain c hc).2).trans (List.map_id _)

/-! ## Requests that fit -/

/-- No displayed number has more than three digits. -/
structure Fits (q : Request) : Prop where
  count     : q.count.toNat ≤ 999
  sides     : q.sides.toNat ≤ 999
  modifier  : q.modifier.toInt.natAbs ≤ 999
  threshold : ∀ n ∈ q.shown.threshold, n.toNat ≤ 999

theorem exists_number {n : Nat} (h : n ≤ 999) :
    ∃ d : Number, d.digits = Decimal.digits n ∧ d.value = n :=
  ⟨⟨Decimal.digits n, Decimal.digits_ne_nil n, Decimal.length_digits_le_three.2 h,
    fun _ hc => Decimal.isDigit_of_mem_digits hc⟩, rfl, Decimal.value_digits n⟩

theorem exists_modifier {m : Int16} (h : m.toInt.natAbs ≤ 999) :
    ∃ d : Option Signed, optionalModifier d = writtenModifier m ∧
      (d.map Signed.value).getD 0 = m.toInt := by
  rw [writtenModifier]
  -- A modifier of zero is not written at all.
  by_cases hm : m = 0
  · refine ⟨none, (if_pos hm).symm, ?_⟩
    rw [hm]
    rfl
  · obtain ⟨d, hdigits, hvalue⟩ := exists_number h
    refine ⟨some ⟨decide (m.toInt < 0), d⟩, ?_, ?_⟩
    · rw [if_neg hm, Decimal.signed, ← hdigits]
      simp only [optionalModifier, Signed.chars, Signed.sign, decide_eq_true_eq]
    · simp only [Option.map_some, Option.getD_some, Signed.value, decide_eq_true_eq, hvalue]
      split
      · omega
      · omega

theorem exists_suffix (q : Request) (h : ∀ n ∈ q.shown.threshold, n.toNat ≤ 999) :
    ∃ x : Suffix, x.kind = q.kind ∧
      optionalDigits x.threshold = writtenThreshold q.kind q.shown.threshold ∧
      q.shown.threshold.map UInt16.toNat = x.threshold.map Number.value := by
  -- Only a threshold that is used is shown, so a shown one may be typed.
  cases hthreshold : q.shown.threshold with
  | none => exact ⟨⟨q.kind, none, fun hne => absurd rfl hne⟩, rfl, rfl, rfl⟩
  | some n =>
    have huses : q.kind.usesThreshold = true := (mem_threshold_shown.1 hthreshold).1
    obtain ⟨d, hdigits, hvalue⟩ := exists_number (h n hthreshold)
    refine ⟨⟨q.kind, some d, fun _ => huses⟩, rfl, ?_, ?_⟩
    · rw [writtenThreshold, if_pos huses]
      exact hdigits
    · rw [Option.map_some, Option.map_some, hvalue]

/-- The display form of a request that fits can be typed, and means what is shown. -/
theorem Fits.spelled {q : Request} (h : q.Fits) :
    ∃ t : Specification, t.chars = q.written ∧ t.Denotes q.shown := by
  obtain ⟨count, hcount, hcount'⟩ := exists_number h.count
  obtain ⟨sides, hsides, hsides'⟩ := exists_number h.sides
  obtain ⟨m, hm, hm'⟩ := exists_modifier h.modifier
  obtain ⟨x, hkind, hx, hx'⟩ := q.exists_suffix h.threshold
  -- Texts with the same parts are the same, so it is enough to find each part.
  have hlayout : (Specification.mk count sides m x).layout = q.shown.layout :=
    Layout.ext hcount hsides hm hkind hx
  refine ⟨⟨count, sides, m, x⟩, ?_, hkind.symm, hcount'.symm, hsides'.symm, hm'.symm, hx'⟩
  rw [← Specification.chars_layout, hlayout, chars_layout, written_shown]

/-- What can be typed has no number of more than three digits. -/
theorem fits_of_spelled {q : Request} {t : Specification} (h : t.chars = q.written) : q.Fits := by
  -- A text has one layout only, so its parts are those of the display form.
  have hlayout : t.layout = q.layout :=
    Layout.chars_inj (t.chars_layout.trans (h.trans q.chars_layout.symm))
  have hcount : t.count.digits = Decimal.digits q.count.toNat := congrArg Layout.count hlayout
  have hsides : t.sides.digits = Decimal.digits q.sides.toNat := congrArg Layout.sides hlayout
  have hmodifier : optionalModifier t.modifier = writtenModifier q.modifier :=
    congrArg Layout.modifier hlayout
  have hthreshold : optionalDigits t.suffix.threshold = writtenThreshold q.kind q.threshold :=
    congrArg Layout.threshold hlayout
  have small : ∀ {d : Number} {n : Nat}, d.digits = Decimal.digits n → n ≤ 999 := by
    intro d n hd
    exact Decimal.length_digits_le_three.1 (hd ▸ d.length_le)
  -- A typed number has at most three digits, so it is at most 999.
  refine ⟨small hcount, small hsides, ?_, ?_⟩
  · -- What is not written is zero; what is written was typed as a number.
    rw [writtenModifier] at hmodifier
    split at hmodifier
    · next hzero =>
      rw [hzero]
      decide
    · cases hm : t.modifier with
      | none =>
        rw [hm] at hmodifier
        cases hmodifier
      | some d =>
        rw [hm] at hmodifier
        exact small (List.cons.inj hmodifier).2
  · intro n hn
    obtain ⟨huses, hn⟩ := mem_threshold_shown.1 hn
    obtain hn : q.threshold = some n := hn
    rw [hn, writtenThreshold, if_pos huses] at hthreshold
    -- A threshold that is shown has digits, so some were typed.
    cases hd : t.suffix.threshold with
    | none =>
      rw [hd] at hthreshold
      exact absurd hthreshold.symm (Decimal.digits_ne_nil _)
    | some d =>
      rw [hd] at hthreshold
      exact small hthreshold

/-! ## Reading display forms -/

/-- A display form is read exactly if the request fits, and then as what is shown. -/
theorem read_written_iff {q q' : Request} :
    Request.read q.written = .ok q' ↔ q.Fits ∧ q' = q.shown := by
  rw [request_read_iff, lowercase_written]
  constructor
  · rintro ⟨t, ht, hq'⟩
    have hfits : q.Fits := fits_of_spelled ht.symm
    obtain ⟨t', ht', hshown⟩ := hfits.spelled
    have hchars : t.chars ++ [] = t'.chars ++ [] := by rw [← ht, ht']
    -- The same text is spelled in one way, so what is read is what is shown.
    obtain ⟨rfl, -⟩ := Specification.chars_append_inj hchars apart_nil apart_nil
    exact ⟨hfits, hq'.unique hshown⟩
  · rintro ⟨hfits, rfl⟩
    obtain ⟨t, ht, hshown⟩ := hfits.spelled
    exact ⟨t, ht.symm, hshown⟩

/-- Requests that were typed fit, and have no threshold but one that is used. -/
theorem fits_of_denotes {q : Request} {t : Specification} (h : t.Denotes q) :
    q.Fits ∧ q.shown = q := by
  obtain ⟨hcount, hsides, hmodifier, hthreshold⟩ := h.bounded
  refine ⟨⟨hcount, hsides, hmodifier, fun n hn => ?_⟩, shown_eq_self_iff.2 fun hne => ?_⟩
  · exact hthreshold n (mem_threshold_shown.1 hn).2
  · rw [h.kind]
    apply t.suffix.usesThreshold
    intro hnone
    have hmap := h.threshold
    rw [hnone, Option.map_none, Option.map_eq_none_iff] at hmap
    exact hne hmap

/-- Requests in the range of commands are those that fit and are shown as they are. -/
theorem fits_and_shown_iff {q : Request} :
    (q.Fits ∧ q = q.shown) ↔
      q.count.toNat ≤ 999 ∧ q.sides.toNat ≤ 999 ∧
        (-999 ≤ q.modifier.toInt ∧ q.modifier.toInt ≤ 999) ∧
        (q.threshold = none ∨ (q.kind = .exploding ∨ q.kind = .imploding) ∧
          ∃ n, q.threshold = some n ∧ n.toNat ≤ 999) := by
  have huses : q.kind.usesThreshold = true ↔ q.kind = .exploding ∨ q.kind = .imploding := by
    cases q.kind <;> decide
  constructor
  · rintro ⟨hfits, hshown⟩
    -- A request that is its shown form has no threshold but one that is used.
    have hmodifier := hfits.modifier
    refine ⟨hfits.count, hfits.sides, by omega, ?_⟩
    cases hthreshold : q.threshold with
    | none => exact .inl rfl
    | some n =>
      have hused : q.kind.usesThreshold = true :=
        shown_eq_self_iff.1 hshown.symm (by rw [hthreshold]; exact Option.some_ne_none n)
      have hn := hfits.threshold n (mem_threshold_shown.2 ⟨hused, hthreshold⟩)
      exact .inr ⟨huses.1 hused, n, rfl, hn⟩
  · rintro ⟨hcount, hsides, hmodifier, hthreshold⟩
    -- Conversely a threshold in range is used, so nothing is lost when it is shown.
    refine ⟨⟨hcount, hsides, by omega, fun n hn => ?_⟩, (shown_eq_self_iff.2 fun hne => ?_).symm⟩
    · obtain ⟨-, hn⟩ := mem_threshold_shown.1 hn
      obtain hn : q.threshold = some n := hn
      rcases hthreshold with hnone | ⟨-, n', hn', hle⟩
      · rw [hn] at hnone
        cases hnone
      · obtain rfl : n = n' := Option.some.inj (hn.symm.trans hn')
        exact hle
    · rcases hthreshold with hnone | ⟨hkind, -⟩
      · exact absurd hnone hne
      · exact huses.2 hkind

/-- **Displaying and reading are inverse exactly on the range of commands.**  The display
form of a request is read as this request exactly if dice count and sides go no further
than 999, the modifier lies between -999 and 999, and a threshold goes no further than 999
and belongs to an exploding or imploding roll.  All requests that are read from a text,
alone or in a roll command, are of this kind. -/
theorem read_text_iff (q : Request) :
    (Request.read q.text.toList = .ok q ↔
      q.count.toNat ≤ 999 ∧ q.sides.toNat ≤ 999 ∧
        (-999 ≤ q.modifier.toInt ∧ q.modifier.toInt ≤ 999) ∧
        (q.threshold = none ∨ (q.kind = .exploding ∨ q.kind = .imploding) ∧
          ∃ n, q.threshold = some n ∧ n.toNat ≤ 999)) ∧
    ∀ text, Request.read text = .ok q ∨ roll? text = some q →
      Request.read q.text.toList = .ok q := by
  rw [text, String.toList_ofList, read_written_iff]
  refine ⟨fits_and_shown_iff, fun typed h => ?_⟩
  -- Whatever was read was spelled, and what is spelled fits.
  obtain ⟨t, hq⟩ : ∃ t : Specification, t.Denotes q := by
    rcases h with h | h
    · obtain ⟨t, -, hq⟩ := request_read_iff.1 h
      exact ⟨t, hq⟩
    · obtain ⟨t, -, hq⟩ := roll?_iff.1 h
      exact ⟨t.spec, hq⟩
  obtain ⟨hfits, hshown⟩ := fits_of_denotes hq
  exact ⟨hfits, hshown.symm⟩

/-- The fourth digit of a modifier is not left over for what follows. -/
example : (Request.read (Request.text ⟨.exploding, 1, 6, -1000, some 5⟩).toList).toOption = none := by
  decide +kernel

end ChatDice.Request
