import ChatDice.Command.Read
import ChatDice.Proofs.Command.Relations
import ChatDice.Proofs.Command.Spelling

/-! # What commands are read as

    A text is read as a command exactly if its lower-case form is spelled as one,
    and then as the request or the token that is spelled.  A grammar goes as far as
    it can at every step; since no part starts with what could still belong to the
    part before it, it never goes too far.

    - `reads_number`, `reads_modifier`, `reads_suffix`: the parts of a specification.
    - `reads_rollSpec`: a specification that white space or nothing follows.
    - `read_iff_spelled`: whole commands.
-/

namespace ChatDice.Command

open Grammar

/-! ## Numbers -/

/-- Where a number ends: after its third digit, or where no digit follows. -/
def EndsNumber (ds rest : List Char) : Prop := EndsRun Char.isDigit (some 3) ds rest

/-- A number is read off the start of a text. -/
def NumberAt (s : List Char) (n : UInt16) (rest : List Char) : Prop :=
  ∃ d : Number, s = d.digits ++ rest ∧ EndsNumber d.digits rest ∧ n.toNat = d.value

/-- Three digits fit into a word. -/
theorem toNat_value (d : Number) : (UInt16.ofNat d.value).toNat = d.value := by
  have hd : d.value ≤ 999 := d.value_le
  rw [UInt16.toNat_ofNat']
  exact Nat.mod_eq_of_lt (by omega)

theorem reads_number : Reads number NumberAt := by
  refine ((reads_run1 Char.isDigit (some 3)).bind fun ds => reads_pure _).congr fun s n rest => ?_
  constructor
  · intro h
    -- A run of digits that the reader takes is a number, as it has at most three.
    obtain ⟨ds, mid, ⟨hs, hne, hall, hbound, hend⟩, hn, hrest⟩ := h
    subst hrest
    refine ⟨⟨ds, hne, hbound 3 rfl, hall⟩, hs, hend, ?_⟩
    rw [hn]
    exact toNat_value ⟨ds, hne, hbound 3 rfl, hall⟩
  · intro h
    obtain ⟨d, hs, hend, hn⟩ := h
    refine ⟨d.digits, rest, ⟨hs, d.ne_nil, d.isDigit, ?_, hend⟩, ?_, rfl⟩
    · -- The bound of the run is that of a number.
      intro k hk
      obtain rfl : 3 = k := Option.some.inj hk
      exact d.length_le
    · exact UInt16.toNat_inj.1 (hn.trans (toNat_value d).symm)

/-- There is a number exactly where there is a digit. -/
theorem no_numberAt_iff {s : List Char} :
    (∀ n rest, ¬ NumberAt s n rest) ↔ ∀ c ∈ s.head?, c.isDigit = false := by
  constructor
  · -- If no number is read, the longest run of digits must be empty.
    intro hno
    obtain ⟨rest, hs, hall, hbound, hend⟩ := runOf_spec Char.isDigit (some 3) s
    by_cases hne : runOf Char.isDigit (some 3) s = []
    · -- The run is empty, and it did not end for its length.
      rw [hne, List.nil_append] at hs
      rw [hne, ← hs] at hend
      rcases hend with hlength | hfirst
      · cases hlength
      · exact hfirst
    · let d : Number := ⟨_, hne, hbound 3 rfl, hall⟩
      exact absurd ⟨d, hs, hend, toNat_value d⟩ (hno (UInt16.ofNat d.value) rest)
  · intro hfirst n rest h
    obtain ⟨d, rfl, -, -⟩ := h
    obtain ⟨c, cs, hc⟩ := List.exists_cons_of_ne_nil d.ne_nil
    rw [hc] at hfirst
    have hdigit : c.isDigit = true := d.isDigit c (hc ▸ List.mem_cons_self)
    rw [hfirst c rfl] at hdigit
    cases hdigit

/-- A number that may be left out is read if there is a digit. -/
theorem reads_optionalNumber :
    Reads (optional number) fun s o rest =>
      ∃ d : Option Number, s = optionalDigits d ++ rest ∧ EndsNumber (optionalDigits d) rest ∧
        o.map UInt16.toNat = d.map Number.value := by
  refine reads_number.optional.congr fun s o rest => ?_
  -- Nothing is read exactly if no digit follows.
  rw [no_numberAt_iff]
  constructor
  · intro h
    rcases h with ⟨n, ho, d, hs, hend, hn⟩ | ⟨ho, hrest, hfirst⟩
    · refine ⟨some d, hs, hend, ?_⟩
      rw [ho, Option.map_some, Option.map_some, hn]
    · subst hrest
      exact ⟨none, rfl, .inr hfirst, by rw [ho]; rfl⟩
  · intro h
    obtain ⟨d, hs, hend, ho⟩ := h
    cases d with
    | none =>
      right
      have hnone : o = none := Option.map_eq_none_iff.1 ho
      rcases hend with hlength | hfirst
      · cases hlength
      · exact ⟨hnone, hs.symm, hs ▸ hfirst⟩
    | some d =>
      left
      obtain ⟨n, ho, hn⟩ := Option.map_eq_some_iff.1 ho
      exact ⟨n, ho, d, hs, hend, hn⟩

/-! ## Modifiers -/

/-- A modifier is read off the start of a text. -/
def ModifierAt (s : List Char) (m : Int16) (rest : List Char) : Prop :=
  ∃ d : Signed, s = d.chars ++ rest ∧ EndsNumber d.number.digits rest ∧ m.toInt = d.value

/-- The sign is applied to a number that is too small to overflow. -/
theorem toInt_signed (d : Signed) {n : UInt16} (hn : n.toNat = d.number.value) :
    (if d.sign = '-' then -Int16.ofNat n.toNat else Int16.ofNat n.toNat).toInt = d.value := by
  have hd : d.number.value ≤ 999 := d.number.value_le
  unfold Signed.sign Signed.value
  rw [hn]
  by_cases h : d.negative = true
  · rw [if_pos h, if_pos rfl, if_pos h, Int16.neg_ofNat]
    exact Int16.toInt_ofInt_of_le (by omega) (by omega)
  · rw [if_neg h, if_neg (by decide), if_neg h]
    exact Int16.toInt_ofNat_of_lt (by omega)

theorem reads_modifier : Reads modifier ModifierAt := by
  refine ((reads_oneOf ['+', '-']).bind fun sign =>
    reads_number.bind fun n => reads_pure _).congr fun s m rest => ?_
  constructor
  · intro h
    obtain ⟨sign, mid, ⟨hsign, hs⟩, n, after, ⟨d, hmid, hend, hn⟩, hm, hrest⟩ := h
    subst hrest
    -- Either sign is that of some modifier.
    obtain ⟨negative, hnegative⟩ : ∃ negative, (Signed.mk negative d).sign = sign := by
      rcases List.mem_cons.1 hsign with hplus | hsign
      · exact ⟨false, hplus.symm⟩
      · exact ⟨true, (List.mem_singleton.1 hsign).symm⟩
    refine ⟨⟨negative, d⟩, ?_, hend, ?_⟩
    · rw [hs, hmid, ← hnegative]
      rfl
    · rw [hm, ← hnegative]
      exact toInt_signed ⟨negative, d⟩ hn
  · intro h
    obtain ⟨d, hs, hend, hm⟩ := h
    -- A spelled modifier gives back its sign and its number.
    have hn := toNat_value d.number
    refine ⟨d.sign, d.number.digits ++ rest, ⟨d.sign_mem, hs⟩, UInt16.ofNat d.number.value, rest,
      ⟨d.number, rfl, hend, hn⟩, ?_, rfl⟩
    exact Int16.toInt_inj.1 (hm.trans (toInt_signed d hn).symm)

/-- A modifier that may be left out is read as it is spelled, if neither sign nor digit
follows. -/
theorem reads_optionalModifier :
    ∃ R, Reads (optional modifier) R ∧ ∀ s m rest, NoNumber rest →
      ((∃ o, R s o rest ∧ o.getD 0 = m) ↔ ∃ d : Option Signed, s = optionalModifier d ++ rest ∧
        m.toInt = (d.map Signed.value).getD 0) := by
  refine ⟨_, reads_modifier.optional, fun s m rest hrest => ?_⟩
  constructor
  · intro h
    obtain ⟨o, h, ho⟩ := h
    subst ho
    rcases h with ⟨m, ho, d, hs, -, hm⟩ | ⟨ho, hs, -⟩
    · subst ho
      exact ⟨some d, hs, hm⟩
    · subst ho hs
      exact ⟨none, rfl, rfl⟩
  · intro h
    obtain ⟨d, hs, hm⟩ := h
    cases d with
    | none =>
      -- Had a modifier been read here, what follows would start with its sign.
      refine ⟨none, .inr ⟨rfl, hs.symm, ?_⟩, Int16.toInt_inj.1 hm.symm⟩
      intro m' mid h'
      obtain ⟨d', hs', -⟩ := h'
      have hhead : rest.head? = some d'.sign := congrArg List.head? (hs.symm.trans hs')
      exact (hrest _ hhead).2 d'.sign_mem
    | some d =>
      exact ⟨some m, .inl ⟨m, rfl, d, hs, .inr fun c hc => (hrest c hc).1, hm⟩, rfl⟩

/-! ## Suffixes -/

/-- The grammar for the suffix of a kind. -/
def kindSuffix (kind : RollKind) : Grammar (RollKind × Option UInt16) :=
  if kind.usesThreshold then thresholdSuffix kind else plainSuffix kind

/-- The kinds with a suffix, in the order they are tried. -/
def suffixedKinds : List RollKind :=
  [.dropHigh, .dropLow, .keepHigh, .keepLow, .exploding, .imploding]

theorem mem_suffixedKinds {k : RollKind} : k ∈ suffixedKinds ↔ k ≠ .normal := by
  cases k <;> decide

/-- The suffix of a kind is read off the start of a text. -/
def SuffixAt (kind : RollKind) (s : List Char) (p : RollKind × Option UInt16)
    (rest : List Char) : Prop :=
  ∃ x : Suffix, x.kind = kind ∧ s = x.chars ++ rest ∧
    (kind.usesThreshold = true → EndsNumber (optionalDigits x.threshold) rest) ∧ p.1 = kind ∧
    p.2.map UInt16.toNat = x.threshold.map Number.value

theorem reads_kindSuffix (kind : RollKind) : Reads (kindSuffix kind) (SuffixAt kind) := by
  unfold kindSuffix
  by_cases huses : kind.usesThreshold = true
  · -- Kinds with a threshold: their letters, and a number that may be left out.
    rw [if_pos huses]
    refine ((reads_word kind.suffix).bind fun _ => reads_optionalNumber.bind fun threshold =>
      reads_pure (kind, threshold)).congr fun s p rest => ?_
    constructor
    · intro h
      obtain ⟨-, mid, hs, o, after, ⟨d, hmid, hend, ho⟩, hp, hrest⟩ := h
      subst hrest hp
      refine ⟨⟨kind, d, fun _ => huses⟩, rfl, ?_, fun _ => hend, rfl, ho⟩
      rw [hs, hmid, Suffix.chars_append]
    · intro h
      obtain ⟨x, hkind, hs, hend, hp, ho⟩ := h
      rw [Suffix.chars_append, hkind] at hs
      exact ⟨(), optionalDigits x.threshold ++ rest, hs, p.2, rest,
        ⟨x.threshold, rfl, hend huses, ho⟩, Prod.ext hp rfl, rfl⟩
  · -- Other kinds: their letters alone, so no threshold can be spelled.
    rw [if_neg huses]
    refine ((reads_word kind.suffix).bind fun _ => reads_pure (kind, none)).congr
      fun s p rest => ?_
    constructor
    · intro h
      obtain ⟨-, mid, hs, hp, hrest⟩ := h
      subst hrest hp
      refine ⟨⟨kind, none, fun h => absurd rfl h⟩, rfl, ?_, fun h => absurd h huses, rfl, rfl⟩
      rw [hs, Suffix.chars_append]
      rfl
    · intro h
      obtain ⟨x, hkind, hs, -, hp, ho⟩ := h
      have hnone : x.threshold = none := by
        by_cases h : x.threshold = none
        · exact h
        · exact absurd (hkind ▸ x.usesThreshold h) huses
      rw [hnone, Option.map_none, Option.map_eq_none_iff] at ho
      rw [Suffix.chars_append, hkind, hnone] at hs
      exact ⟨(), rest, hs, Prod.ext hp ho, rfl⟩

/-- No two suffixes can be read off the same text, so their order does not matter. -/
theorem reads_suffix : Reads suffix fun s p rest => ∃ k ∈ suffixedKinds, SuffixAt k s p rest := by
  have hchoice : suffix = choice (suffixedKinds.map kindSuffix) := rfl
  rw [hchoice]
  refine reads_choice suffixedKinds (fun k _ => reads_kindSuffix k) ?_
  intro k hk k' hk' s p p' rest rest' h h'
  obtain ⟨x, rfl, hs, -⟩ := h
  obtain ⟨x', rfl, hs', -⟩ := h'
  rw [Suffix.chars_append] at hs hs'
  exact kind_eq_of_suffix (mem_suffixedKinds.1 hk) (mem_suffixedKinds.1 hk') (hs.symm.trans hs')

/-- A suffix that may be left out is read as it is spelled, if white space or
nothing follows. -/
theorem reads_optionalSuffix :
    ∃ R, Reads (optional suffix) R ∧ ∀ s p rest, Apart rest →
      ((∃ o, R s o rest ∧ o.getD (.normal, none) = p) ↔
        ∃ x : Suffix, s = x.chars ++ rest ∧ p.1 = x.kind ∧
          p.2.map UInt16.toNat = x.threshold.map Number.value) := by
  refine ⟨_, reads_suffix.optional, fun s p rest hrest => ?_⟩
  constructor
  · intro h
    obtain ⟨o, h, hp⟩ := h
    subst hp
    rcases h with ⟨p, ho, k, -, x, hkind, hs, -, hp, hthreshold⟩ | ⟨ho, hs, -⟩
    · subst ho hkind
      exact ⟨x, hs, hp, hthreshold⟩
    · subst ho hs
      exact ⟨⟨.normal, none, fun h => absurd rfl h⟩, rfl, rfl, rfl⟩
  · intro h
    obtain ⟨x, hs, hkind, hthreshold⟩ := h
    by_cases hnormal : x.kind = .normal
    · -- There is no suffix, and what follows is not taken for one.
      rw [Suffix.chars_of_normal hnormal, List.nil_append] at hs
      rw [Suffix.threshold_of_normal hnormal, Option.map_none, Option.map_eq_none_iff] at hthreshold
      refine ⟨none, .inr ⟨rfl, hs.symm, ?_⟩, Prod.ext (hnormal ▸ hkind.symm) hthreshold.symm⟩
      intro p' mid h'
      obtain ⟨k, hk, x', hkind', hs', -⟩ := h'
      rw [hs, Suffix.chars_append] at hs'
      exact mem_suffixedKinds.1 hk (hkind' ▸ normal_of_apart hrest hs')
    · have hend : EndsNumber (optionalDigits x.threshold) rest :=
        .inr fun c hc => Text.isDigit_of_isBlank (hrest c hc)
      exact ⟨some p, .inl ⟨p, rfl, x.kind, mem_suffixedKinds.2 hnormal, x, rfl, hs, fun _ => hend,
        hkind, hthreshold⟩, rfl⟩

/-! ## Specifications -/

/-- A request is known by its numbers. -/
theorem Specification.Denotes.unique {t : Specification} {q q' : Request} (h : t.Denotes q)
    (h' : t.Denotes q') : q = q' := by
  have hkind : q.kind = q'.kind := h.kind.trans h'.kind.symm
  have hcount : q.count = q'.count := UInt16.toNat_inj.1 (h.count.trans h'.count.symm)
  have hsides : q.sides = q'.sides := UInt16.toNat_inj.1 (h.sides.trans h'.sides.symm)
  have hmodifier : q.modifier = q'.modifier :=
    Int16.toInt_inj.1 (h.modifier.trans h'.modifier.symm)
  have hinj : Function.Injective UInt16.toNat := fun _ _ hn => UInt16.toNat_inj.1 hn
  have hthreshold : q.threshold = q'.threshold :=
    Option.map_injective hinj (h.threshold.trans h'.threshold.symm)
  cases q
  cases q'
  congr

/-- Whatever is spelled means one request: its numbers fit. -/
theorem Specification.existsUnique_denotes (t : Specification) : ∃! q, t.Denotes q := by
  let m : Int := (t.modifier.map Signed.value).getD 0
  have hm : m.natAbs ≤ 999 := by
    unfold m
    cases t.modifier with
    | none => decide
    | some d => exact d.natAbs_value_le
  -- The request is built from the values of the parts; none of them overflows.
  let q : Request :=
    { kind      := t.suffix.kind
      count     := UInt16.ofNat t.count.value
      sides     := UInt16.ofNat t.sides.value
      modifier  := Int16.ofInt m
      threshold := t.suffix.threshold.map fun d => UInt16.ofNat d.value }
  have hq : t.Denotes q :=
    { kind      := rfl
      count     := toNat_value t.count
      sides     := toNat_value t.sides
      modifier  := Int16.toInt_ofInt_of_le (by omega) (by omega)
      threshold := by
        cases hthreshold : t.suffix.threshold with
        | none => simp [q, hthreshold]
        | some d => simp only [q, hthreshold, Option.map_some, toNat_value] }
  exact ⟨q, hq, fun q' hq' => hq'.unique hq⟩

/-- A specification is read as it is spelled, if white space or nothing follows. -/
theorem reads_rollSpec :
    ∃ R, Reads rollSpec R ∧ ∀ s q rest, Apart rest → (R s q rest ↔
      ∃ t : Specification, s = t.chars ++ rest ∧ t.Denotes q) := by
  obtain ⟨M, hmodifier, hM⟩ := reads_optionalModifier
  obtain ⟨S, hsuffix, hS⟩ := reads_optionalSuffix
  refine ⟨_, reads_number.bind fun count => (reads_char 'd').bind fun _ =>
    reads_number.bind fun sides => hmodifier.bind fun m => hsuffix.bind fun o =>
      reads_pure (⟨(o.getD (.normal, none)).1, count, sides, m.getD 0,
        (o.getD (.normal, none)).2⟩ : Request), fun s q rest hrest => ?_⟩
  constructor
  · intro h
    obtain ⟨count, _, ⟨c, hs, -, hcount⟩, -, _, hd, sides, _, ⟨d, hsides, -, hd'⟩, m, _, hm, o,
      _, ho, hq, hrest'⟩ := h
    subst hrest' hq
    -- What must not follow a part is known from the parts after it, so these come first.
    obtain ⟨x, hx, hkind, hthreshold⟩ := (hS _ _ _ hrest).1 ⟨o, ho, rfl⟩
    subst hx
    obtain ⟨e, he, hvalue⟩ := (hM _ _ _ (x.noNumber_chars hrest)).1 ⟨m, hm, rfl⟩
    refine ⟨⟨c, d, e, x⟩, ?_, ⟨hkind, hcount, hd', hvalue, hthreshold⟩⟩
    rw [hs, hd, hsides, he, Specification.chars_append]
  · intro h
    obtain ⟨t, hs, hq⟩ := h
    -- Each part is read to its end because of what the next one starts with.
    have hnumber : NoNumber (t.suffix.chars ++ rest) := t.suffix.noNumber_chars hrest
    obtain ⟨o, ho, hkind⟩ := (hS _ (q.kind, q.threshold) _ hrest).2
      ⟨t.suffix, rfl, hq.kind, hq.threshold⟩
    obtain ⟨m, hm, hvalue⟩ := (hM _ q.modifier _ hnumber).2 ⟨t.modifier, rfl, hq.modifier⟩
    rw [Specification.chars_append] at hs
    have hd : ∀ s : List Char, ∀ c ∈ ('d' :: s).head?, c.isDigit = false :=
      Text.forall_head?_cons rfl
    have hsides := isDigit_of_isModifier (isModifier_optionalModifier t.modifier) hnumber
    refine ⟨q.count, _, ⟨t.count, hs, .inr (hd _), hq.count⟩, (), _, rfl, q.sides, _,
      ⟨t.sides, rfl, .inr hsides, hq.sides⟩, m, _, hm, o, _, ho, ?_, rfl⟩
    rw [hkind, hvalue]

/-! ## Commands -/

theorem reads_blanks :
    Reads blanks fun s b rest => s = b ++ rest ∧ b ≠ [] ∧ (∀ c ∈ b, Text.isBlank c = true) ∧
      ∀ c ∈ rest.head?, Text.isBlank c = false := by
  refine (reads_run1 Text.isBlank none).congr fun s b rest => ?_
  constructor
  · intro h
    obtain ⟨hs, hne, hall, -, hend⟩ := h
    exact ⟨hs, hne, hall, hend.resolve_left nofun⟩
  · intro h
    obtain ⟨hs, hne, hall, hend⟩ := h
    exact ⟨hs, hne, hall, nofun, .inr hend⟩

/-- There is white space exactly where a blank character is. -/
theorem exists_blanks_iff {s : List Char} :
    (∃ b rest, s = b ++ rest ∧ b ≠ [] ∧ (∀ c ∈ b, Text.isBlank c = true) ∧
      ∀ c ∈ rest.head?, Text.isBlank c = false) ↔ ∃ c ∈ s.head?, Text.isBlank c = true := by
  constructor
  · intro h
    obtain ⟨b, rest, rfl, hne, hall, -⟩ := h
    obtain ⟨c, cs, rfl⟩ := List.exists_cons_of_ne_nil hne
    exact ⟨c, rfl, hall c List.mem_cons_self⟩
  · intro h
    obtain ⟨c, hc, hblank⟩ := h
    -- The longest run of white space has the blank character, so it is not empty.
    obtain ⟨rest, hs, hall, -, hend⟩ := runOf_spec Text.isBlank none s
    have hend : ∀ d ∈ rest.head?, Text.isBlank d = false := hend.resolve_left nofun
    refine ⟨_, rest, hs, ?_, hall, hend⟩
    intro hnil
    rw [hnil, List.nil_append] at hs
    rw [hend c (hs ▸ hc)] at hblank
    cases hblank

/-- After a specification nothing may follow, or white space and anything. -/
theorem reads_tail :
    Reads (orElse endOfInput blanksAndMore) fun s _ rest => Apart s ∧ rest = [] := by
  -- A run with no condition takes all that is left.
  have hanything : Reads (run (fun _ => true) none) fun s a rest => a = s ∧ rest = [] := by
    refine ⟨_, gives_run _ none, fun s a rest => ?_⟩
    have hall : runOf (fun _ => true) none s = s := List.takeWhile_eq_self_iff.2 fun _ _ => rfl
    rw [hall, List.drop_length]
    simp only [Option.some.injEq, Prod.mk.injEq, eq_comm]
  refine (reads_endOfInput.orElse (reads_blanks.bind fun _ => hanything.bind fun _ =>
    reads_pure ())).congr fun s a rest => ?_
  constructor
  · intro h
    rcases h with ⟨hs, hrest⟩ | ⟨-, b, mid, hblanks, _, _, ⟨-, hmid⟩, -, hrest⟩
    · subst hs
      exact ⟨apart_nil, hrest⟩
    · subst hrest hmid
      obtain ⟨c, hc, hblank⟩ := exists_blanks_iff.1 ⟨b, mid, hblanks⟩
      refine ⟨fun d hd => ?_, rfl⟩
      obtain rfl : c = d := Option.some.inj (hc.symm.trans hd)
      exact hblank
  · intro h
    obtain ⟨hs, hrest⟩ := h
    cases s with
    | nil => exact .inl ⟨rfl, hrest⟩
    | cons c s =>
      right
      obtain ⟨b, mid, hblanks⟩ := exists_blanks_iff.2 ⟨c, List.head?_cons, hs c rfl⟩
      exact ⟨nofun, b, mid, hblanks, mid, [], ⟨rfl, rfl⟩, rfl, hrest⟩

theorem reads_rollCommand :
    Reads rollCommand fun s q rest =>
      rest = [] ∧ ∃ t : RollText, s = t.chars ∧ t.spec.Denotes q := by
  obtain ⟨R, hspec, hR⟩ := reads_rollSpec
  refine ((reads_word rollKeyword).bind fun _ => reads_blanks.bind fun _ => hspec.bind fun q =>
    reads_tail.bind fun _ => reads_pure q).congr fun s q rest => ?_
  constructor
  · intro h
    obtain ⟨-, _, hs, b, _, ⟨hb, hne, hall, -⟩, q', tail, hq, -, _, ⟨htail, hnil⟩, hq', hrest⟩ := h
    subst hq'
    -- What follows the specification is apart from it, so it was spelled.
    obtain ⟨t, ht, hdenotes⟩ := (hR _ _ _ htail).1 hq
    refine ⟨hrest.trans hnil, ⟨b, t, tail, hne, hall, htail⟩, ?_, hdenotes⟩
    rw [hs, hb, ht]
    rfl
  · intro h
    obtain ⟨hrest, t, hs, hdenotes⟩ := h
    have hq := (hR _ q _ t.apart_tail).2 ⟨t.spec, rfl, hdenotes⟩
    exact ⟨(), _, hs, t.blanks, _, ⟨rfl, t.ne_nil, t.isBlank, t.spec.head?_chars t.tail⟩, q, _, hq,
      (), [], ⟨t.apart_tail, rfl⟩, rfl, hrest⟩

theorem reads_rerollCommand :
    Reads rerollCommand fun s token rest =>
      rest = [] ∧ ∃ t : RerollText, s = t.chars ∧ t.token = token := by
  refine ((reads_word rerollKeyword).bind fun _ => reads_blanks.bind fun _ =>
    (reads_run1 Char.isAlphanum none).bind fun token => reads_blanks.optional.bind fun _ =>
      reads_endOfInput.bind fun _ => reads_pure token).congr fun s token rest => ?_
  constructor
  · intro h
    obtain ⟨-, _, hs, b, _, ⟨hb, hne, hall, -⟩, token', after, ⟨htoken, hne', halnum, -⟩, o, mid,
      hafter, -, _, ⟨hmid, hnil⟩, heq, hrest⟩ := h
    subst heq hmid
    -- White space after the token may be missing, but nothing else may stand there.
    have hblank : ∀ c ∈ after, Text.isBlank c = true := by
      rcases hafter with ⟨b', -, hb', -, hall', -⟩ | ⟨-, hnil', -⟩
      · rw [hb', List.append_nil]
        exact hall'
      · rw [← hnil']
        nofun
    refine ⟨hrest.trans hnil, ⟨b, token, after, hne, hall, hne', halnum, hblank⟩, ?_, rfl⟩
    rw [hs, hb, htoken]
    rfl
  · intro h
    obtain ⟨hrest, t, hs, htoken⟩ := h
    subst htoken
    have hfirst : ∀ c ∈ (t.token ++ t.after).head?, Text.isBlank c = false :=
      Text.forall_head?_append t.token_ne_nil
        (fun c hc => Text.isBlank_of_isAlphanum (t.isAlphanum c hc)) t.after
    have hlast : ∀ c ∈ t.after.head?, c.isAlphanum = false := fun c hc =>
      Text.isAlphanum_of_isBlank (t.isBlank_after c (List.mem_of_mem_head? hc))
    refine ⟨(), _, hs, t.blanks, _, ⟨rfl, t.ne_nil, t.isBlank, hfirst⟩, t.token, _,
      ⟨rfl, t.token_ne_nil, t.isAlphanum, nofun, .inr hlast⟩, ?_⟩
    -- Optional white space is left out only if there is none.
    by_cases hnil : t.after = []
    · refine ⟨none, [], .inr ⟨rfl, hnil.symm, ?_⟩, (), [], ⟨rfl, rfl⟩, rfl, hrest⟩
      intro b mid hblanks
      obtain ⟨c, hc, -⟩ := exists_blanks_iff.1 ⟨b, mid, hblanks⟩
      rw [hnil] at hc
      cases hc
    · exact ⟨some t.after, [], .inl ⟨t.after, rfl, (List.append_nil _).symm, hnil, t.isBlank_after,
        nofun⟩, (), [], ⟨rfl, rfl⟩, rfl, hrest⟩

/-! ## Whole texts -/

theorem roll?_iff {text : List Char} {q : Request} :
    roll? text = some q ↔ ∃ t : RollText, Text.lowercase text = t.chars ∧ t.spec.Denotes q := by
  rw [roll?, toOption_eq_some_iff, reads_rollCommand.read_iff]
  exact and_iff_right rfl

theorem reroll?_iff {text token : List Char} :
    reroll? text = some token ↔
      ∃ t : RerollText, Text.lowercase text = t.chars ∧ t.token = token := by
  rw [reroll?, toOption_eq_some_iff, reads_rerollCommand.read_iff]
  exact and_iff_right rfl

/-- A specification alone must go to the end of the text. -/
theorem request_read_iff {text : List Char} {q : Request} :
    Request.read text = .ok q ↔
      ∃ t : Specification, Text.lowercase text = t.chars ∧ t.Denotes q := by
  obtain ⟨R, hspec, hR⟩ := reads_rollSpec
  rw [Request.read, hspec.read_iff, hR _ _ _ apart_nil]
  simp only [List.append_nil]

/-- **Commands are read exactly as they are spelled.**  A text is read as a roll if its
lower-case form is spelled as a roll command of that request, which is possible in
one way at most; as a bare request if it is spelled as a specification; and as a
reroll if it is spelled as a reroll command with that token.  Every specification
means one request, and no number that is read goes beyond 999. -/
theorem read_iff_spelled (text : List Char) :
    (∀ q, roll? text = some q ↔
      ∃ t : RollText, Text.lowercase text = t.chars ∧ t.spec.Denotes q) ∧
    (∀ t t' : RollText, Text.lowercase text = t.chars → Text.lowercase text = t'.chars → t = t') ∧
    (∀ t : Specification, ∃! q, t.Denotes q) ∧
    (∀ q, Request.read text = .ok q ↔
      ∃ t : Specification, Text.lowercase text = t.chars ∧ t.Denotes q) ∧
    (∀ q, roll? text = some q ∨ Request.read text = .ok q →
      q.count.toNat ≤ 999 ∧ q.sides.toNat ≤ 999 ∧ q.modifier.toInt.natAbs ≤ 999 ∧
        ∀ n ∈ q.threshold, n.toNat ≤ 999) ∧
    ∀ token, reroll? text = some token ↔
      ∃ t : RerollText, Text.lowercase text = t.chars ∧ t.token = token := by
  refine ⟨fun _ => roll?_iff, ?_, Specification.existsUnique_denotes, fun _ => request_read_iff, ?_,
    fun _ => reroll?_iff⟩
  · -- One lower-case form is the text of one command.
    intro t t' ht ht'
    exact RollText.chars_inj (ht.symm.trans ht')
  · intro q h
    rcases h with h | h
    · obtain ⟨t, -, hq⟩ := roll?_iff.1 h
      exact hq.bounded
    · obtain ⟨t, -, hq⟩ := request_read_iff.1 h
      exact hq.bounded

/-- The sign for kelvin has the letter k for its lower-case form. -/
example : roll? "/ROLL\t3D06-2\u212Ah at dawn".toList = some ⟨.keepHigh, 3, 6, -2, none⟩ := by
  decide +kernel

end ChatDice.Command
