import ChatDice.Command.Roll
import ChatDice.Proofs.Text.Classes
import ChatDice.Proofs.Text.Decimal
import ChatDice.Proofs.Text.Runs

/-! # How requests are laid out

    A request is a row of parts with nothing between them: digits, the letter `d`, digits,
    perhaps a sign and digits, the suffix of a kind, and perhaps digits again.  The numbers
    of a display form may be longer than those that can be typed.  Even so a text is laid
    out in one way only, so the display form tells all about a request but a threshold that
    its kind does not use.

    - `Layout`: the parts of such a text.
    - `Layout.chars_append_inj`, `Layout.chars_inj`: there is one way to cut it.
    - `Request.layout`: what is displayed is of this form.
    - `Request.shown`, `written_eq_iff`: what the display form tells.
-/

namespace ChatDice.Command

/-! ## What a part starts with -/

/-- Nothing, or white space and anything. -/
def Apart (rest : List Char) : Prop := ∀ c ∈ rest.head?, Text.isBlank c = true

theorem apart_nil : Apart [] := fun _ h => nomatch h

/-- No digit, and no sign. -/
def NoNumber (rest : List Char) : Prop :=
  ∀ c ∈ rest.head?, c.isDigit = false ∧ c ∉ ['+', '-']

theorem isBlank_of_sign {c : Char} (h : c ∈ ['+', '-']) :
    Text.isBlank c = false ∧ c.isDigit = false := by
  simp only [List.mem_cons, List.not_mem_nil, or_false] at h
  rcases h with rfl | rfl
  · decide
  · decide

/-- A suffix starts with a letter. -/
theorem head?_suffix {k : RollKind} (hk : k ≠ .normal) (rest : List Char) :
    ∃ c, (k.suffix ++ rest).head? = some c ∧ Text.isBlank c = false ∧
      c.isDigit = false ∧ c ∉ ['+', '-'] := by
  cases k with
  | normal    => exact absurd rfl hk
  | exploding => exact ⟨'e', rfl, by decide⟩
  | imploding => exact ⟨'i', rfl, by decide⟩
  | dropHigh  => exact ⟨'d', rfl, by decide⟩
  | dropLow   => exact ⟨'d', rfl, by decide⟩
  | keepHigh  => exact ⟨'k', rfl, by decide⟩
  | keepLow   => exact ⟨'k', rfl, by decide⟩

/-- No suffix starts like another one. -/
theorem kind_eq_of_suffix {k k' : RollKind} {rest rest' : List Char} (hk : k ≠ .normal)
    (hk' : k' ≠ .normal) (h : k.suffix ++ rest = k'.suffix ++ rest') : k = k' := by
  cases k <;> cases k' <;> simp_all [RollKind.suffix]

/-- What follows a specification is not taken for a suffix. -/
theorem normal_of_apart {k : RollKind} {rest rest' : List Char} (hrest : Apart rest)
    (h : rest = k.suffix ++ rest') : k = .normal := by
  by_cases hk : k = .normal
  · exact hk
  · obtain ⟨c, hhead, hletter, -⟩ := head?_suffix hk rest'
    have hblank := hrest c (h ▸ hhead)
    rw [hletter] at hblank
    cases hblank

theorem noNumber_of_apart {rest : List Char} (hrest : Apart rest) : NoNumber rest := by
  intro c hc
  refine ⟨Text.isDigit_of_isBlank (hrest c hc), fun hsign => ?_⟩
  have hblank := hrest c hc
  rw [(isBlank_of_sign hsign).1] at hblank
  cases hblank

/-- A threshold has a suffix before it, so what starts with neither is what follows both. -/
theorem noNumber_suffix {k : RollKind} {ds rest : List Char} (hds : k = .normal → ds = [])
    (hrest : Apart rest) : NoNumber (k.suffix ++ (ds ++ rest)) := by
  by_cases hk : k = .normal
  · rw [hds hk, hk]
    exact noNumber_of_apart hrest
  · obtain ⟨c, hhead, -, hletter⟩ := head?_suffix hk (ds ++ rest)
    intro d hd
    obtain rfl : c = d := Option.some.inj (hhead.symm.trans hd)
    exact hletter

/-! ## Texts of this form -/

/-- The text of a modifier: nothing, or a sign and digits. -/
def IsModifier (m : List Char) : Prop :=
  m = [] ∨ ∃ sign ds, m = sign :: ds ∧ sign ∈ ['+', '-'] ∧ ∀ c ∈ ds, c.isDigit = true

/-- The parts of a text in the form of requests.  The numbers may have any length. -/
@[ext]
structure Layout where
  count               : List Char
  sides               : List Char
  modifier            : List Char
  kind                : RollKind
  threshold           : List Char
  isDigit_count       : ∀ c ∈ count, c.isDigit = true
  isDigit_sides       : ∀ c ∈ sides, c.isDigit = true
  isModifier          : IsModifier modifier
  isDigit_threshold   : ∀ c ∈ threshold, c.isDigit = true
  threshold_of_normal : kind = .normal → threshold = []

/-! ## One way to cut them -/

section modifiers
variable {m m' rest rest' : List Char}

theorem isDigit_of_isModifier (hm : IsModifier m) (hrest : NoNumber rest) :
    ∀ c ∈ (m ++ rest).head?, c.isDigit = false := by
  intro c hc
  rcases hm with rfl | ⟨sign, ds, rfl, hsign, -⟩
  · exact (hrest c hc).1
  · obtain rfl : sign = c := Option.some.inj hc
    exact (isBlank_of_sign hsign).2

/-- A modifier ends where neither sign nor digit follows. -/
theorem isModifier_append_inj (hm : IsModifier m) (hm' : IsModifier m')
    (h : m ++ rest = m' ++ rest') (hrest : NoNumber rest) (hrest' : NoNumber rest') :
    m = m' ∧ rest = rest' := by
  rcases hm with rfl | ⟨sign, ds, rfl, hsign, hds⟩
  · rcases hm' with rfl | ⟨sign', ds', rfl, hsign', -⟩
    · exact ⟨rfl, h⟩
    · -- No sign may follow where there is no modifier.
      have hhead : rest.head? = some sign' := congrArg List.head? h
      exact absurd hsign' (hrest _ hhead).2
  · rcases hm' with rfl | ⟨sign', ds', rfl, -, hds'⟩
    · have hhead : rest'.head? = some sign := congrArg List.head? h.symm
      exact absurd hsign (hrest' _ hhead).2
    · obtain ⟨rfl, hnumber⟩ := List.cons.inj h
      obtain ⟨rfl, hafter⟩ := Text.run_unique hnumber hds hds' (fun c hc => (hrest c hc).1)
        fun c hc => (hrest' c hc).1
      exact ⟨rfl, hafter⟩

end modifiers

namespace Layout

/-- The parts in a row. -/
def chars (w : Layout) : List Char :=
  w.count ++ 'd' :: (w.sides ++ (w.modifier ++ (w.kind.suffix ++ w.threshold)))

theorem chars_append (w : Layout) (rest : List Char) :
    w.chars ++ rest = w.count ++ 'd' :: (w.sides ++ (w.modifier ++
      (w.kind.suffix ++ (w.threshold ++ rest)))) := by
  simp only [chars, List.append_assoc, List.cons_append]

/-- A roll is normal exactly if nothing comes after the modifier. -/
theorem kind_eq_of_append {w w' : Layout} {rest rest' : List Char}
    (h : w.kind.suffix ++ (w.threshold ++ rest) = w'.kind.suffix ++ (w'.threshold ++ rest'))
    (hrest : Apart rest) (hrest' : Apart rest') : w.kind = w'.kind := by
  have nothing : ∀ (v : Layout) (after : List Char), v.kind = .normal →
      v.kind.suffix ++ (v.threshold ++ after) = after := by
    intro v after hk
    rw [v.threshold_of_normal hk, hk]
    rfl
  by_cases hk : w.kind = .normal
  · rw [hk, normal_of_apart hrest ((nothing w rest hk).symm.trans h)]
  · by_cases hk' : w'.kind = .normal
    · rw [hk', normal_of_apart hrest' ((nothing w' rest' hk').symm.trans h.symm)]
    · exact kind_eq_of_suffix hk hk' h

/-- A text is laid out in one way only, whatever the length of its numbers, wherever white
space or nothing follows. -/
theorem chars_append_inj {w w' : Layout} {rest rest' : List Char}
    (h : w.chars ++ rest = w'.chars ++ rest') (hrest : Apart rest) (hrest' : Apart rest') :
    w = w' ∧ rest = rest' := by
  have hd : ∀ s : List Char, ∀ c ∈ ('d' :: s).head?, c.isDigit = false :=
    Text.forall_head?_cons rfl
  have hnumber := noNumber_suffix w.threshold_of_normal hrest
  have hnumber' := noNumber_suffix w'.threshold_of_normal hrest'
  rw [chars_append, chars_append] at h
  -- Part by part, from the left.
  obtain ⟨hcount, h⟩ := Text.run_unique h w.isDigit_count w'.isDigit_count (hd _) (hd _)
  obtain ⟨-, h⟩ := List.cons.inj h
  obtain ⟨hsides, h⟩ := Text.run_unique h w.isDigit_sides w'.isDigit_sides
    (isDigit_of_isModifier w.isModifier hnumber) (isDigit_of_isModifier w'.isModifier hnumber')
  obtain ⟨hmodifier, h⟩ := isModifier_append_inj w.isModifier w'.isModifier h hnumber hnumber'
  have hkind := kind_eq_of_append h hrest hrest'
  rw [hkind] at h
  obtain ⟨hthreshold, hafter⟩ := Text.run_unique (List.append_cancel_left h) w.isDigit_threshold
    w'.isDigit_threshold (fun c hc => (noNumber_of_apart hrest c hc).1)
    fun c hc => (noNumber_of_apart hrest' c hc).1
  exact ⟨Layout.ext hcount hsides hmodifier hkind hthreshold, hafter⟩

theorem chars_inj {w w' : Layout} (h : w.chars = w'.chars) : w = w' :=
  (chars_append_inj (congrArg (· ++ []) h) apart_nil apart_nil).1

end Layout

end ChatDice.Command

/-! ## What is displayed -/

namespace ChatDice.Request

open Command

theorem isModifier_writtenModifier (m : Int16) : IsModifier (writtenModifier m) := by
  rw [writtenModifier]
  split
  · exact .inl rfl
  · refine .inr ⟨_, _, rfl, ?_, fun _ hc => Decimal.isDigit_of_mem_digits hc⟩
    split
    · exact List.mem_cons_of_mem _ List.mem_cons_self
    · exact List.mem_cons_self

theorem isDigit_of_mem_writtenThreshold {k : RollKind} {t : Option UInt16} {c : Char}
    (h : c ∈ writtenThreshold k t) : c.isDigit = true := by
  cases t with
  | none => cases h
  | some n =>
    rw [writtenThreshold] at h
    split at h
    · exact Decimal.isDigit_of_mem_digits h
    · cases h

/-- The parts of a request as it is displayed. -/
def layout (q : Request) : Layout where
  count               := Decimal.digits q.count.toNat
  sides               := Decimal.digits q.sides.toNat
  modifier            := writtenModifier q.modifier
  kind                := q.kind
  threshold           := writtenThreshold q.kind q.threshold
  isDigit_count       := fun _ hc => Decimal.isDigit_of_mem_digits hc
  isDigit_sides       := fun _ hc => Decimal.isDigit_of_mem_digits hc
  isModifier          := isModifier_writtenModifier q.modifier
  isDigit_threshold   := fun _ hc => isDigit_of_mem_writtenThreshold hc
  threshold_of_normal := by
    intro hk
    rw [hk]
    cases q.threshold with
    | none => rfl
    | some n => rfl

@[simp] theorem chars_layout (q : Request) : q.layout.chars = q.written := by
  simp only [Layout.chars, layout, written, List.append_assoc, List.cons_append]

/-! ## What the display form tells -/

/-- The request without a threshold that its kind does not use. -/
def shown (q : Request) : Request :=
  { q with threshold := if q.kind.usesThreshold then q.threshold else none }

@[simp] theorem kind_shown (q : Request) : q.shown.kind = q.kind := rfl

@[simp] theorem count_shown (q : Request) : q.shown.count = q.count := rfl

@[simp] theorem sides_shown (q : Request) : q.shown.sides = q.sides := rfl

@[simp] theorem modifier_shown (q : Request) : q.shown.modifier = q.modifier := rfl

theorem mem_threshold_shown {q : Request} {n : UInt16} :
    n ∈ q.shown.threshold ↔ q.kind.usesThreshold = true ∧ n ∈ q.threshold := by
  rw [shown]
  split
  · next huses => simp [huses]
  · next huses => simp [huses]

/-- Only a threshold that is not used is left out. -/
theorem shown_eq_self_iff {q : Request} :
    q.shown = q ↔ (q.threshold ≠ none → q.kind.usesThreshold = true) := by
  rw [shown]
  by_cases huses : q.kind.usesThreshold = true
  · rw [if_pos huses]
    exact ⟨fun _ _ => huses, fun _ => rfl⟩
  · rw [if_neg huses]
    constructor
    · intro h hne
      exact absurd (congrArg threshold h).symm hne
    · intro h
      have hnone : q.threshold = none := Decidable.not_not.1 fun hne => huses (h hne)
      rw [← hnone]

/-- Requests are shown alike if they differ in nothing but a threshold that is not
used. -/
theorem shown_eq_iff {q q' : Request} :
    q.shown = q'.shown ↔ q.kind = q'.kind ∧ q.count = q'.count ∧ q.sides = q'.sides ∧
      q.modifier = q'.modifier ∧ (q.kind.usesThreshold = true → q.threshold = q'.threshold) := by
  rw [shown, shown, mk.injEq]
  constructor
  · rintro ⟨hkind, hcount, hsides, hmodifier, hthreshold⟩
    refine ⟨hkind, hcount, hsides, hmodifier, fun huses => ?_⟩
    rwa [← hkind, if_pos huses, if_pos huses] at hthreshold
  · rintro ⟨hkind, hcount, hsides, hmodifier, hthreshold⟩
    refine ⟨hkind, hcount, hsides, hmodifier, ?_⟩
    rw [← hkind]
    by_cases huses : q.kind.usesThreshold = true
    · rw [if_pos huses, if_pos huses, hthreshold huses]
    · rw [if_neg huses, if_neg huses]

/-- A modifier is known by its text. -/
theorem writtenModifier_inj {m m' : Int16} (h : writtenModifier m = writtenModifier m') :
    m = m' := by
  rw [writtenModifier, writtenModifier] at h
  by_cases hm : m = 0
  · by_cases hm' : m' = 0
    · rw [hm, hm']
    · rw [if_pos hm, if_neg hm'] at h
      cases h
  · by_cases hm' : m' = 0
    · rw [if_neg hm, if_pos hm'] at h
      cases h
    · rw [if_neg hm, if_neg hm'] at h
      exact Int16.toInt_inj.1 (Decimal.signed_inj h)

/-- A threshold that is used is known by its text. -/
theorem writtenThreshold_inj {k : RollKind} (huses : k.usesThreshold = true)
    {t t' : Option UInt16} (h : writtenThreshold k t = writtenThreshold k t') : t = t' := by
  have hsome : ∀ n, writtenThreshold k (some n) = Decimal.digits n.toNat := fun n => if_pos huses
  cases t with
  | none =>
    cases t' with
    | none => rfl
    | some n' => exact absurd ((hsome n').symm.trans h.symm) (Decimal.digits_ne_nil _)
  | some n =>
    cases t' with
    | none => exact absurd ((hsome n).symm.trans h) (Decimal.digits_ne_nil _)
    | some n' =>
      rw [hsome, hsome] at h
      rw [UInt16.toNat_inj.1 (Decimal.digits_inj h)]

/-- A threshold that is not used is not displayed. -/
@[simp] theorem written_shown (q : Request) : q.shown.written = q.written := by
  have hthreshold :
      writtenThreshold q.kind q.shown.threshold = writtenThreshold q.kind q.threshold := by
    rw [shown]
    cases hkind : q.kind <;> cases q.threshold <;> rfl
  simp only [written, kind_shown, count_shown, sides_shown, modifier_shown, hthreshold]

/-- The display form tells all of a request but a threshold that is not used. -/
theorem written_eq_iff {q q' : Request} : q.written = q'.written ↔ q.shown = q'.shown := by
  constructor
  · intro h
    -- Equal texts have equal parts, and each part tells its number.
    have hlayout : q.layout = q'.layout :=
      Layout.chars_inj (q.chars_layout.trans (h.trans q'.chars_layout.symm))
    have hkind : q.kind = q'.kind := congrArg Layout.kind hlayout
    have hcount : q.count = q'.count :=
      UInt16.toNat_inj.1 (Decimal.digits_inj (congrArg Layout.count hlayout))
    have hsides : q.sides = q'.sides :=
      UInt16.toNat_inj.1 (Decimal.digits_inj (congrArg Layout.sides hlayout))
    have hmodifier : q.modifier = q'.modifier :=
      writtenModifier_inj (congrArg Layout.modifier hlayout)
    -- The threshold is told only by the kinds that use one.
    refine shown_eq_iff.2 ⟨hkind, hcount, hsides, hmodifier, fun huses => ?_⟩
    have hthreshold : writtenThreshold q.kind q.threshold = writtenThreshold q'.kind q'.threshold :=
      congrArg Layout.threshold hlayout
    rw [← hkind] at hthreshold
    exact writtenThreshold_inj huses hthreshold
  · intro h
    rw [← written_shown q, h, written_shown]

end ChatDice.Request
