import Mathlib.Data.String.Basic
import ChatDice.Proofs.Command.Misses

/-! # Refused texts are refused at a place

    A grammar starts at the first place of a text and moves on over whole characters only,
    so wherever it stands, some of the text lies before it and the rest is left.  Each miss
    has the span of such a place: the character there, or nothing at the end of the text.
    How far a miss reaches decides which one is reported, but the span of the one reported
    is that of a place in any case, so the text can be cut there.

    - `Cursor.IsIn`, `Miss.Marks`: the places of a text, and the misses that mark them.
    - `StaysIn`: a grammar that goes from places to places and marks places; one lemma for
      each way to build a grammar.
    - `marks_furthest`: the miss that got furthest marks a place, too.
    - `Miss.Located`: what the span of a miss is in the bytes of a text.
    - `exists_located_of_refused`: all grammars of the commands.
-/

namespace ChatDice.Command

variable {text : List Char}

/-! ## Places -/

namespace Cursor

theorem sizeOf_eq_utf8Len (s : List Char) : sizeOf s = String.utf8Len s := by
  induction s with
  | nil => rfl
  | cons c s ih => rw [sizeOf, ih, String.utf8Len_cons, Nat.add_comm]

theorem sizeOf_append (s t : List Char) : sizeOf (s ++ t) = sizeOf s + sizeOf t := by
  simp only [sizeOf_eq_utf8Len, String.utf8Len_append]

/-- The cursor is at a place of the text: its offset is the size of what comes before,
and what is left follows. -/
def IsIn (text : List Char) (c : Cursor) : Prop :=
  ∃ before, text = before ++ c.rest ∧ c.offset = sizeOf before

theorem isIn_start (text : List Char) : (start text).IsIn text := ⟨[], rfl, rfl⟩

variable {c : Cursor}

theorem IsIn.advance (hc : c.IsIn text) (n : Nat) : (c.advance n).IsIn text := by
  obtain ⟨before, htext, hoffset⟩ := hc
  refine ⟨before ++ c.rest.take n, ?_, ?_⟩
  · show text = (before ++ c.rest.take n) ++ c.rest.drop n
    rw [List.append_assoc, List.take_append_drop, htext]
  · show c.offset + sizeOf (c.rest.take n) = _
    rw [hoffset, sizeOf_append]

/-- A place is not inside a character. -/
theorem IsIn.isValid (hc : c.IsIn text) :
    String.Pos.Raw.IsValid (String.ofList text) ⟨c.offset⟩ := by
  obtain ⟨before, rfl, hoffset⟩ := hc
  refine String.Pos.Raw.isValid_ofList.2 ⟨before.length, ?_⟩
  rw [List.take_left, String.utf8ByteSize_ofList, ← sizeOf_eq_utf8Len]
  exact hoffset

end Cursor

/-! ## Misses -/

namespace Miss

/-- The miss has the span of some place of the text: the character there, or nothing if
it is the end. -/
def Marks (text : List Char) (m : Miss) : Prop :=
  ∃ c : Cursor, c.IsIn text ∧ m.start = c.offset ∧ m.stop = c.stop

/-- Of two misses that are merged, one gives the span. -/
theorem marks_merge {best : Option Miss} {m : Miss} (hbest : ∀ b ∈ best, b.Marks text)
    (hm : m.Marks text) : ∀ b ∈ merge best m, b.Marks text := by
  intro b hb
  unfold merge at hb
  split at hb
  · cases hb
    exact hm
  · next known =>
    have hknown : known.Marks text := hbest known rfl
    split at hb
    · cases hb
      exact hm
    · -- On a tie the known miss wants more, but keeps its span.
      split at hb
      · cases hb
        exact hknown
      · cases hb
        exact hknown

end Miss

/-- Whichever miss got furthest, it marks a place. -/
theorem marks_furthest {misses : List Miss} (h : ∀ m ∈ misses, m.Marks text) :
    ∀ m ∈ furthest misses, m.Marks text := by
  refine List.foldlRecOn (motive := fun best : Option Miss => ∀ b ∈ best, b.Marks text)
    misses Miss.merge ?_ ?_
  · nofun
  · exact fun _ hbest m hm => Miss.marks_merge hbest (h m hm)

variable {α β : Type}

/-! ## Grammars that stay in the text -/

/-- What reading came to is in the text: it ended at a place, and missed at places. -/
structure Trial.StaysIn (text : List Char) (t : Trial α) : Prop where
  result : ∀ p ∈ t.result, p.2.IsIn text
  misses : ∀ m ∈ t.misses, m.Marks text

/-- A value was read, and reading goes on at a place. -/
theorem Trial.staysIn_given {c : Cursor} (hc : c.IsIn text) {misses : List Miss}
    (hmisses : ∀ m ∈ misses, m.Marks text) (a : α) :
    (⟨some (a, c), misses⟩ : Trial α).StaysIn text := by
  refine ⟨?_, hmisses⟩
  intro p hp
  cases hp
  exact hc

/-- A miss at the place where reading stands, whatever its reach and what it reports. -/
theorem Trial.staysIn_missed {c : Cursor} (hc : c.IsIn text) (reach : Nat)
    (wanted : List Wanted) (found : Option Char) :
    (⟨none, [⟨reach, c.offset, c.stop, wanted, found⟩]⟩ : Trial α).StaysIn text :=
  ⟨nofun, List.forall_mem_singleton.2 ⟨c, hc, rfl, rfl⟩⟩

namespace Grammar

open Trial

/-- From any place of the text, the grammar stays in the text. -/
def StaysIn (text : List Char) (g : Grammar α) : Prop :=
  ∀ c : Cursor, c.IsIn text → (g c).StaysIn text

variable {g h : Grammar α}

theorem staysIn_pure (a : α) : StaysIn text (pure a : Grammar α) :=
  fun _ hc => staysIn_given hc (List.forall_mem_nil _) a

/-- The second part starts where the first one ended. -/
theorem StaysIn.bind {f : α → Grammar β} (hg : StaysIn text g) (hf : ∀ a, StaysIn text (f a)) :
    StaysIn text (g >>= f) := by
  intro c hc
  show (andThen g f c).StaysIn text
  have hfirst := hg c hc
  unfold andThen
  split
  · next misses heq =>
    rw [heq] at hfirst
    exact ⟨nofun, hfirst.misses⟩
  · next a c' misses heq =>
    rw [heq] at hfirst
    have hsecond := hf a c' (hfirst.result _ rfl)
    exact ⟨hsecond.result, List.forall_mem_append.2 ⟨hfirst.misses, hsecond.misses⟩⟩

/-- The second alternative starts from the same place, and the misses of the first one
are kept. -/
theorem StaysIn.orElse (hg : StaysIn text g) (hh : StaysIn text h) :
    StaysIn text (orElse g h) := by
  intro c hc
  have hfirst := hg c hc
  unfold Grammar.orElse
  split
  · next p misses heq =>
    rw [heq] at hfirst
    exact hfirst
  · next misses heq =>
    -- The first alternative is given up, but what it missed still counts.
    rw [heq] at hfirst
    have hsecond := hh c hc
    exact ⟨hsecond.result, List.forall_mem_append.2 ⟨hfirst.misses, hsecond.misses⟩⟩

theorem StaysIn.optional (hg : StaysIn text g) : StaysIn text (optional g) := by
  intro c hc
  have hpart := hg c hc
  unfold Grammar.optional
  split
  · next a c' misses heq =>
    rw [heq] at hpart
    exact staysIn_given (hpart.result (a, c') rfl) hpart.misses (some a)
  · next misses heq =>
    rw [heq] at hpart
    exact staysIn_given hc hpart.misses none

theorem staysIn_choice {gs : List (Grammar α)} (h : ∀ g ∈ gs, StaysIn text g) :
    StaysIn text (choice gs) := by
  induction gs with
  | nil => exact fun c _ => ⟨nofun, List.forall_mem_nil _⟩
  | cons g gs ih =>
    obtain ⟨hfirst, hothers⟩ := List.forall_mem_cons.1 h
    exact hfirst.orElse (ih hothers)

/-! ## Characters and runs -/

theorem staysIn_char (w : Char) : StaysIn text (char w) := by
  intro c hc
  unfold char
  split
  · exact staysIn_given (hc.advance 1) (List.forall_mem_nil _) ()
  · exact staysIn_missed hc _ _ _

theorem staysIn_word (ws : List Char) : StaysIn text (word ws) := by
  induction ws with
  | nil => exact staysIn_pure ()
  | cons w ws ih => exact (staysIn_char w).bind fun _ => ih

theorem staysIn_oneOf (ws : List Char) : StaysIn text (oneOf ws) := by
  intro c hc
  unfold oneOf
  split
  · next a _ => exact staysIn_given (hc.advance 1) (List.forall_mem_nil _) a
  · exact staysIn_missed hc _ _ _

theorem staysIn_endOfInput : StaysIn text endOfInput := by
  intro c hc
  unfold endOfInput
  split
  · exact staysIn_given hc (List.forall_mem_nil _) ()
  · exact staysIn_missed hc _ _ _

/-- The miss that ends a run is at the place after it. -/
theorem staysIn_run (p : Char → Bool) (bound : Option Nat) : StaysIn text (run p bound) := by
  intro c hc
  have hafter := hc.advance (runOf p bound c.rest).length
  refine staysIn_given hafter ?_ _
  split
  · exact List.forall_mem_nil _
  · exact List.forall_mem_singleton.2 ⟨_, hafter, rfl, rfl⟩

theorem staysIn_run1 (p : Char → Bool) (bound : Option Nat) : StaysIn text (run1 p bound) := by
  intro c hc
  have hrun := staysIn_run p bound c hc
  unfold run1
  split
  · next heq =>
    rw [heq] at hrun
    exact ⟨nofun, hrun.misses⟩
  · exact hrun

/-! ## Reading whole texts -/

/-- The error of a text that is refused marks a place of it. -/
theorem marks_of_read {errors : List Miss} (hg : StaysIn text g)
    (h : g.read text = .error errors) : ∀ m ∈ errors, m.Marks text := by
  -- The misses are those of the grammar and of the look for the end after it.
  have hwhole : StaysIn text (andThen g fun a => andThen endOfInput fun _ => give a) :=
    hg.bind fun a => staysIn_endOfInput.bind fun _ => staysIn_pure a
  have hmisses := (hwhole _ (Cursor.isIn_start text)).misses
  unfold read at h
  dsimp only at h
  split at h
  · cases h
  · cases h
    intro m hm
    exact marks_furthest hmisses m (Option.mem_toList.1 hm)

end Grammar

/-! ## Spans in bytes -/

/-- A miss can be shown in a text: its span starts and ends within the text, between
characters, and is one whole character or is empty at the end. -/
structure Miss.Located (m : Miss) (s : String) : Prop where
  ordered        : m.start ≤ m.stop
  within         : m.stop ≤ s.utf8ByteSize
  startsBetween  : String.Pos.Raw.IsValid s ⟨m.start⟩
  stopsBetween   : String.Pos.Raw.IsValid s ⟨m.stop⟩
  characterOrEnd :
    (∃ c, String.Pos.Raw.extract s ⟨m.start⟩ ⟨m.stop⟩ = String.singleton c) ∨
      (m.start = s.utf8ByteSize ∧ m.stop = s.utf8ByteSize)

/-- The text from a place to the next one is a character, unless the place is the end. -/
theorem Cursor.IsIn.characterOrEnd {c : Cursor} (hc : c.IsIn text) :
    (∃ d, String.Pos.Raw.extract (String.ofList text) ⟨c.offset⟩ ⟨c.stop⟩ = String.singleton d) ∨
      (c.offset = (String.ofList text).utf8ByteSize ∧
        c.stop = (String.ofList text).utf8ByteSize) := by
  obtain ⟨before, rfl, hoffset⟩ := hc
  obtain ⟨offset, rest⟩ := c
  rw [Cursor.stop, hoffset, Cursor.sizeOf_eq_utf8Len, Cursor.sizeOf_eq_utf8Len]
  -- Two bounds that are equal are those of the end; otherwise one character is between.
  cases rest with
  | nil =>
    right
    rw [List.append_nil, String.utf8ByteSize_ofList]
    exact ⟨rfl, rfl⟩
  | cons d after =>
    left
    have hcut := String.extract_of_valid before [d] after
    rw [List.append_assoc, ← String.singleton_eq_ofList] at hcut
    exact ⟨d, hcut⟩

theorem Miss.Marks.located {m : Miss} (h : m.Marks text) : m.Located (String.ofList text) := by
  obtain ⟨c, hc, hstart, hstop⟩ := h
  -- The span ends at a place, too: the next one, or the same if there is none.
  have hnext : String.Pos.Raw.IsValid (String.ofList text) ⟨c.stop⟩ := (hc.advance 1).isValid
  rw [← hstop] at hnext
  constructor
  · rw [hstart, hstop]
    exact Nat.le_add_right _ _
  · exact hnext.le_utf8ByteSize
  · rw [hstart]
    exact hc.isValid
  · exact hnext
  · rw [hstart, hstop]
    exact hc.characterOrEnd

open Grammar

/-! ## The grammars of the commands -/

theorem staysIn_number : StaysIn text number :=
  (staysIn_run1 _ _).bind fun _ => staysIn_pure _

theorem staysIn_modifier : StaysIn text modifier :=
  (staysIn_oneOf _).bind fun _ => staysIn_number.bind fun _ => staysIn_pure _

theorem staysIn_plainSuffix (kind : RollKind) : StaysIn text (plainSuffix kind) :=
  (staysIn_word _).bind fun _ => staysIn_pure _

theorem staysIn_thresholdSuffix (kind : RollKind) : StaysIn text (thresholdSuffix kind) :=
  (staysIn_word _).bind fun _ => staysIn_number.optional.bind fun _ => staysIn_pure _

theorem staysIn_suffix : StaysIn text suffix := by
  refine staysIn_choice ?_
  simp only [List.forall_mem_cons, staysIn_plainSuffix, staysIn_thresholdSuffix, true_and]
  exact List.forall_mem_nil _

theorem staysIn_rollSpec : StaysIn text rollSpec :=
  staysIn_number.bind fun _ => (staysIn_char 'd').bind fun _ => staysIn_number.bind fun _ =>
    staysIn_modifier.optional.bind fun _ => staysIn_suffix.optional.bind fun _ => staysIn_pure _

theorem staysIn_blanks : StaysIn text blanks := staysIn_run1 _ _

theorem staysIn_blanksAndMore : StaysIn text blanksAndMore :=
  staysIn_blanks.bind fun _ => (staysIn_run _ _).bind fun _ => staysIn_pure _

theorem staysIn_rollCommand : StaysIn text rollCommand :=
  (staysIn_word rollKeyword).bind fun _ => staysIn_blanks.bind fun _ =>
    staysIn_rollSpec.bind fun _ =>
      (staysIn_endOfInput.orElse staysIn_blanksAndMore).bind fun _ => staysIn_pure _

theorem staysIn_rerollCommand : StaysIn text rerollCommand :=
  (staysIn_word rerollKeyword).bind fun _ => staysIn_blanks.bind fun _ =>
    (staysIn_run1 _ _).bind fun _ => staysIn_blanks.optional.bind fun _ =>
      staysIn_endOfInput.bind fun _ => staysIn_pure _

/-- A grammar that notes what it misses, and only at places, refuses a text with one
error that can be shown in it. -/
theorem exists_located_of_read {g : Grammar α} {errors : List Miss} (hnoted : Noted g)
    (hstays : StaysIn text g) (h : g.read text = .error errors) :
    ∃ m, errors = [m] ∧ m.Located (String.ofList text) := by
  rcases read_of_noted hnoted text with ⟨a, hread⟩ | ⟨m, hread⟩
  · rw [hread] at h
    cases h
  · have hmarks := marks_of_read hstays hread m List.mem_cons_self
    rw [hread] at h
    cases h
    exact ⟨m, rfl, hmarks.located⟩

/-- The errors of a roll command can be shown in its lower-case form. -/
theorem located_of_mem_rollErrors {m : Miss} (h : m ∈ rollErrors text) :
    m.Located (String.ofList (Text.lowercase text)) := by
  unfold rollErrors at h
  split at h
  · cases h
  · next errors hread =>
    obtain ⟨m', rfl, hlocated⟩ :=
      exists_located_of_read noted_rollCommand staysIn_rollCommand hread
    cases List.mem_singleton.1 h
    exact hlocated

/-- **Refused texts are refused at a place.**  Whatever text one of the three grammars
refuses, there is exactly one error.  Its span starts and ends within the text, in this
order and between characters, and it is one whole character or is empty at the end of the
text. -/
theorem exists_located_of_refused {errors : List Miss}
    (h : rollSpec.read text = .error errors ∨ rollCommand.read text = .error errors ∨
      rerollCommand.read text = .error errors) :
    ∃ m, errors = [m] ∧ m.Located (String.ofList text) := by
  rcases h with hspec | hroll | hreroll
  · exact exists_located_of_read noted_rollSpec staysIn_rollSpec hspec
  · exact exists_located_of_read noted_rollCommand staysIn_rollCommand hroll
  · exact exists_located_of_read noted_rerollCommand staysIn_rerollCommand hreroll

/-- A dash of three bytes in a reference: the miss that got furthest is the one that ended
the reference, and its span is the dash. -/
theorem exists_located_of_refused_wide_dash :
    ∃ m, rerollCommand.read "/reroll a1—b2".toList = .error [m] ∧ m.start = 10 ∧ m.stop = 13 ∧
      m.Located "/reroll a1—b2" := by
  have hread : rerollCommand.read "/reroll a1—b2".toList = .error [⟨13, 10, 13, [], none⟩] := by
    rfl
  obtain ⟨m, hm, hlocated⟩ := exists_located_of_refused (.inr (.inr hread))
  cases hm
  rw [String.ofList_toList] at hlocated
  exact ⟨_, hread, rfl, rfl, hlocated⟩

end ChatDice.Command
