import ChatDice.Proofs.Command.Results
import ChatDice.Proofs.Text.Runs
import Mathlib.Data.List.TakeWhile
import Mathlib.Tactic.Choose

/-! # What grammars read, as relations

    A grammar takes a part off the start of a text, gives a value for it and
    leaves a rest.  `Reads g R` says that text, value and rest are related by `R`
    exactly when the grammar does so.  Parts are taken off greedily and the first
    alternative that fits wins, so the relations say not only what a part looks
    like but also what must not follow it.

    - `Reads.bind`, `Reads.optional`, `Reads.orElse`, `reads_choice`: grammars made
      of others.
    - `reads_word`, `reads_oneOf`, `reads_run1`: single parts.
    - `Reads.read_iff`: reading a whole text.
-/

namespace ChatDice.Command.Grammar

variable {α β : Type}

/-- The grammar takes a part off a text, gives a value and leaves a rest exactly if
the three are related. -/
def Reads (g : Grammar α) (R : List Char → α → List Char → Prop) : Prop :=
  ∃ f, Gives g f ∧ ∀ s a rest, f s = some (a, rest) ↔ R s a rest

variable {g : Grammar α} {R R' : List Char → α → List Char → Prop}

theorem Reads.congr (hg : Reads g R) (h : ∀ s a rest, R s a rest ↔ R' s a rest) :
    Reads g R' := by
  obtain ⟨f, hf, hR⟩ := hg
  exact ⟨f, hf, fun s a rest => (hR s a rest).trans (h s a rest)⟩

/-! ## Combining grammars -/

theorem reads_pure (a : α) : Reads (pure a) fun s b rest => b = a ∧ rest = s := by
  refine ⟨_, gives_pure a, fun s b rest => ?_⟩
  simp only [Option.some.injEq, Prod.mk.injEq, eq_comm]

/-- The second part starts where the first one ends. -/
theorem Reads.bind {h : α → Grammar β} {K : α → List Char → β → List Char → Prop}
    (hg : Reads g R) (hh : ∀ a, Reads (h a) (K a)) :
    Reads (g >>= h) fun s b rest => ∃ a mid, R s a mid ∧ K a mid b rest := by
  obtain ⟨f, hf, hR⟩ := hg
  choose k hk hK using hh
  refine ⟨_, hf.bind hk, fun s b rest => ?_⟩
  rw [Option.bind_eq_some_iff]
  constructor
  · rintro ⟨⟨a, mid⟩, hfirst, hsecond⟩
    exact ⟨a, mid, (hR s a mid).1 hfirst, (hK a mid b rest).1 hsecond⟩
  · rintro ⟨a, mid, hfirst, hsecond⟩
    exact ⟨(a, mid), (hR s a mid).2 hfirst, (hK a mid b rest).2 hsecond⟩

/-- An optional part is left out only where it cannot be read. -/
theorem Reads.optional (hg : Reads g R) :
    Reads (Grammar.optional g) fun s o rest =>
      (∃ a, o = some a ∧ R s a rest) ∨ (o = none ∧ rest = s ∧ ∀ a mid, ¬ R s a mid) := by
  obtain ⟨f, hf, hR⟩ := hg
  refine ⟨_, hf.optional, fun s o rest => ?_⟩
  cases hs : f s with
  | none =>
    have hno : ∀ a mid, ¬ R s a mid := by
      intro a mid ha
      rw [(hR s a mid).2 ha] at hs
      cases hs
    constructor
    · intro h
      cases h
      exact .inr ⟨rfl, rfl, hno⟩
    · rintro (⟨a, -, ha⟩ | ⟨rfl, rfl, -⟩)
      · exact absurd ha (hno a rest)
      · rfl
  | some p =>
    -- The part can be read here, so it is not left out, and there is only one way to read it.
    obtain ⟨a, mid⟩ := p
    have ha := (hR s a mid).1 hs
    constructor
    · intro h
      cases h
      exact .inl ⟨a, rfl, ha⟩
    · rintro (⟨b, rfl, hb⟩ | ⟨-, -, hno⟩)
      · have heq := hs.symm.trans ((hR s b rest).2 hb)
        cases heq
        rfl
      · exact absurd ha (hno a mid)

theorem Gives.orElse {h : Grammar α} {f k : List Char → Option (α × List Char)}
    (hg : Gives g f) (hh : Gives h k) : Gives (orElse g h) fun s => (f s).or (k s) := by
  intro c
  show (Grammar.orElse g h c).result.map _ = (f c.rest).or (k c.rest)
  rw [← hg c]
  unfold Grammar.orElse
  obtain ⟨result, misses⟩ := g c
  cases result with
  | none => exact hh c
  | some p => rfl

/-- The second alternative counts only where the first one does not fit. -/
theorem Reads.orElse {h : Grammar α} (hg : Reads g R) (hh : Reads h R') :
    Reads (orElse g h) fun s a rest => R s a rest ∨ ((∀ b mid, ¬ R s b mid) ∧ R' s a rest) := by
  obtain ⟨f, hf, hR⟩ := hg
  obtain ⟨k, hk, hR'⟩ := hh
  refine ⟨_, hf.orElse hk, fun s a rest => ?_⟩
  cases hs : f s with
  | none =>
    -- The first alternative gave nothing, so it fits in no way at all.
    have hno : ∀ b mid, ¬ R s b mid := by
      intro b mid hb
      rw [(hR s b mid).2 hb] at hs
      cases hs
    rw [Option.none_or, hR' s a rest]
    exact ⟨fun h => .inr ⟨hno, h⟩, fun h => (h.resolve_left (hno a rest)).2⟩
  | some p =>
    obtain ⟨b, mid⟩ := p
    -- The first alternative fits, so the second one is not tried.
    have hb := (hR s b mid).1 hs
    rw [Option.some_or, ← hs, hR s a rest]
    exact ⟨.inl, fun h => h.resolve_right fun h => h.1 b mid hb⟩

/-- Of alternatives that exclude each other, any one counts, whatever their order. -/
theorem reads_choice {ι : Type} {alternative : ι → Grammar α}
    {S : ι → List Char → α → List Char → Prop} (is : List ι)
    (hread : ∀ i ∈ is, Reads (alternative i) (S i))
    (hexclude : ∀ i ∈ is, ∀ j ∈ is, ∀ s a b rest mid, S i s a rest → S j s b mid → i = j) :
    Reads (choice (is.map alternative)) fun s a rest => ∃ i ∈ is, S i s a rest := by
  induction is with
  | nil =>
    refine ⟨fun _ => none, fun _ => rfl, fun s a rest => ?_⟩
    simp
  | cons i is ih =>
    have hrest := ih (fun j hj => hread j (List.mem_cons_of_mem i hj)) fun j hj k hk =>
      hexclude j (List.mem_cons_of_mem i hj) k (List.mem_cons_of_mem i hk)
    refine ((hread i List.mem_cons_self).orElse hrest).congr fun s a rest => ?_
    constructor
    · rintro (h | ⟨-, j, hj, h⟩)
      · exact ⟨i, List.mem_cons_self, h⟩
      · exact ⟨j, List.mem_cons_of_mem i hj, h⟩
    · rintro ⟨j, hj, h⟩
      -- If the first alternative fits, it is the one meant: no other can fit as well.
      by_cases hfirst : ∃ b mid, S i s b mid
      · obtain ⟨b, mid, hb⟩ := hfirst
        obtain rfl := hexclude i List.mem_cons_self j hj s b a mid rest hb h
        exact .inl h
      · refine .inr ⟨fun b mid hb => hfirst ⟨b, mid, hb⟩, j, ?_, h⟩
        rcases List.mem_cons.1 hj with rfl | hj
        · exact absurd ⟨a, rest, h⟩ hfirst
        · exact hj

/-! ## Single parts -/

/-- A word is taken off as it is. -/
theorem reads_word (ws : List Char) : Reads (word ws) fun s _ rest => s = ws ++ rest := by
  refine ⟨_, gives_word ws, fun s a rest => ?_⟩
  by_cases h : ws <+: s
  · obtain ⟨t, rfl⟩ := h
    simp
  · have hno : ws.isPrefixOf s = false := by
      rw [← Bool.not_eq_true, List.isPrefixOf_iff_prefix]
      exact h
    constructor
    · intro heq
      rw [hno] at heq
      cases heq
    · rintro rfl
      exact absurd (List.prefix_append ws rest) h

theorem reads_char (w : Char) : Reads (char w) fun s _ rest => s = w :: rest := by
  refine ⟨_, gives_char w, fun s a rest => ?_⟩
  cases s with
  | nil => simp
  | cons c s =>
    by_cases h : c = w
    · simp [h]
    · simp [h]

theorem gives_oneOf (ws : List Char) :
    Gives (oneOf ws) fun s =>
      match s with
      | []     => none
      | a :: s => if ws.contains a then some (a, s) else none := by
  intro c
  obtain ⟨offset, s⟩ := c
  cases s with
  | nil => rfl
  | cons a s =>
    by_cases h : ws.contains a = true
    · simp only [oneOf, List.head?_cons, Option.filter, h, if_true]
      rfl
    · simp only [oneOf, List.head?_cons, Option.filter, h]
      rfl

theorem reads_oneOf (ws : List Char) :
    Reads (oneOf ws) fun s a rest => a ∈ ws ∧ s = a :: rest := by
  refine ⟨_, gives_oneOf ws, fun s a rest => ?_⟩
  cases s with
  | nil => simp
  | cons c s =>
    -- One character is taken, and it has to be one of those listed.
    simp only [List.contains_iff_mem]
    by_cases h : c ∈ ws
    · rw [if_pos h]
      constructor
      · intro heq
        cases heq
        exact ⟨h, rfl⟩
      · rintro ⟨-, heq⟩
        cases heq
        rfl
    · rw [if_neg h]
      constructor
      · intro heq
        cases heq
      · rintro ⟨ha, heq⟩
        cases heq
        exact absurd ha h

theorem reads_endOfInput : Reads endOfInput fun s _ rest => s = [] ∧ rest = [] := by
  refine ⟨_, gives_endOfInput, fun s a rest => ?_⟩
  cases s with
  | nil => simp [eq_comm]
  | cons c s => simp

/-! ## Runs -/

/-- What ends a run of a class: its bound, or a character of another class, or the
end of the text. -/
def EndsRun (p : Char → Bool) (bound : Option Nat) (ds rest : List Char) : Prop :=
  bound = some ds.length ∨ ∀ c ∈ rest.head?, p c = false

/-- A run is a part of the text of one class, within its bound, and goes on until
something ends it. -/
theorem runOf_spec (p : Char → Bool) (bound : Option Nat) (s : List Char) :
    ∃ rest, s = runOf p bound s ++ rest ∧ (∀ c ∈ runOf p bound s, p c = true) ∧
      (∀ n ∈ bound, (runOf p bound s).length ≤ n) ∧ EndsRun p bound (runOf p bound s) rest := by
  -- The bound cuts the text in two, and the run lies in the first half.
  obtain ⟨t, u, hs, hrun, hlength, hcut⟩ : ∃ t u, s = t ++ u ∧ runOf p bound s = t.takeWhile p ∧
      (∀ n ∈ bound, t.length ≤ n) ∧ (u = [] ∨ bound = some t.length) := by
    cases bound with
    | none => exact ⟨s, [], (List.append_nil s).symm, rfl, by simp, .inl rfl⟩
    | some n =>
      refine ⟨s.take n, s.drop n, (List.take_append_drop n s).symm, rfl, ?_, ?_⟩
      · intro m hm
        cases hm
        exact List.length_take_le n s
      · by_cases h : n ≤ s.length
        · right
          rw [List.length_take_of_le h]
        · left
          exact List.drop_of_length_le (by omega)
  rw [hrun]
  refine ⟨t.dropWhile p ++ u, ?_, ?_, ?_, ?_⟩
  · rw [← List.append_assoc, List.takeWhile_append_dropWhile, hs]
  · intro c hc
    exact List.all_eq_true.1 List.all_takeWhile c hc
  · intro n hn
    exact Nat.le_trans (List.takeWhile_sublist p).length_le (hlength n hn)
  · cases hdrop : t.dropWhile p with
    | nil =>
      -- All of the first half belongs to the run.
      have htake : t.takeWhile p = t := by
        have := List.takeWhile_append_dropWhile (p := p) (l := t)
        rwa [hdrop, List.append_nil] at this
      rw [htake]
      rcases hcut with rfl | hbound
      · right
        simp
      · exact .inl hbound
    | cons d ds =>
      right
      intro c hc
      obtain rfl : d = c := Option.some.inj hc
      have hfirst := List.head?_dropWhile_not p t
      rw [hdrop] at hfirst
      simpa using hfirst

/-- A part of one class is the run at the start of a text if it is within the bound
and something ends it. -/
theorem runOf_append {p : Char → Bool} {bound : Option Nat} {ds rest : List Char}
    (hds : ∀ c ∈ ds, p c = true) (hbound : ∀ n ∈ bound, ds.length ≤ n)
    (hend : EndsRun p bound ds rest) : runOf p bound (ds ++ rest) = ds := by
  have hall : ds.takeWhile p = ds := List.takeWhile_eq_self_iff.2 hds
  cases bound with
  | none =>
    rcases hend with h | h
    · cases h
    · exact Text.takeWhile_run hds h
  | some n =>
    have hlength : ds.length ≤ n := hbound n rfl
    have htake : (ds ++ rest).take n = ds ++ rest.take (n - ds.length) := by
      rw [List.take_append, List.take_of_length_le hlength]
    show ((ds ++ rest).take n).takeWhile p = ds
    rw [htake]
    rcases hend with h | h
    · obtain rfl : n = ds.length := Option.some.inj h
      rw [Nat.sub_self, List.take_zero, List.append_nil, hall]
    · refine Text.takeWhile_run hds fun c hc => h c ?_
      -- What is left of the rest starts like the rest.
      cases rest with
      | nil => simp at hc
      | cons d ds' =>
        cases hn : n - ds.length with
        | zero =>
          rw [hn] at hc
          cases hc
        | succ k =>
          rw [hn] at hc
          exact hc

/-- A run of at least one character, and what ends it. -/
theorem reads_run1 (p : Char → Bool) (bound : Option Nat) :
    Reads (run1 p bound) fun s ds rest => s = ds ++ rest ∧ ds ≠ [] ∧ (∀ c ∈ ds, p c = true) ∧
      (∀ n ∈ bound, ds.length ≤ n) ∧ EndsRun p bound ds rest := by
  refine ⟨_, gives_run1 p bound, fun s ds rest => ?_⟩
  constructor
  · intro h
    split at h
    · cases h
    · next hne =>
      -- What is left is told by the run, as the run is the start of the text.
      obtain ⟨rest', hs, hall, hbound, hend⟩ := runOf_spec p bound s
      obtain ⟨rfl, rfl⟩ := Prod.mk.inj (Option.some.inj h)
      have hrest : s.drop (runOf p bound s).length = rest' := by
        conv => lhs; arg 2; rw [hs]
        exact List.drop_left
      rw [hrest]
      exact ⟨hs, hne, hall, hbound, hend⟩
  · rintro ⟨rfl, hne, hall, hbound, hend⟩
    rw [runOf_append hall hbound hend, if_neg hne, List.drop_left]

/-! ## Whole texts -/

theorem toOption_eq_some_iff {ε : Type} {x : Except ε α} {a : α} :
    x.toOption = some a ↔ x = .ok a := by
  cases x with
  | error e => exact ⟨nofun, nofun⟩
  | ok b => exact ⟨fun h => congrArg Except.ok (Option.some.inj h),
      fun h => congrArg some (Except.ok.inj h)⟩

/-- A whole text is read if nothing is left of it. -/
theorem Reads.read_iff (hg : Reads g R) (text : List Char) (a : α) :
    read g text = .ok a ↔ R text a [] := by
  obtain ⟨f, hf, hR⟩ := hg
  rw [← toOption_eq_some_iff, hf.toOption_read, Option.bind_eq_some_iff, ← hR text a []]
  constructor
  · intro h
    -- The check at the end lets a result pass only if nothing is left.
    obtain ⟨⟨b, rest⟩, hb, h⟩ := h
    rw [hb]
    split at h
    · next hempty =>
      obtain rfl : b = a := Option.some.inj h
      obtain rfl : rest = [] := List.isEmpty_iff.1 hempty
      rfl
    · cases h
  · intro h
    exact ⟨(a, []), h, rfl⟩

end ChatDice.Command.Grammar
