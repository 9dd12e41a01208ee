import ChatDice.Json.Value
import ChatDice.Proofs.Json.Numerals
import ChatDice.Proofs.Json.Strings

/-! # JSON texts

    The texts of a value, by the grammar of JSON: white space may stand around every
    value, name and punctuation mark, numerals and strings may be written in several
    ways, and members may repeat a name.  All of them are read as the value.

    The tokens of a text are read one by one (`Token.Spells`), since no token can go
    on with the next one; then the machine takes the tokens of a value, whatever
    frames are open, to the phase in which this value is complete.

    - `JsonText`: the grammar.
    - `adds_of_jsonText`: a text of a value has the tokens of the value.
    - `run_tokens`: the machine makes them the value again.
    - `read_of_jsonText`: every text of a value is read as the value.
-/

namespace ChatDice.Json

/-! ## Tokens -/

namespace Token

/-- The texts of a token; only numerals and strings have more than one. -/
def TokenText : Token → List Char → Prop
  | number n, s => NumeralText n s
  | string q, s => Quoted.QuotedText q s
  | t,        s => s = t.written

/-- Nothing but a sign or a digit starts a numeral. -/
theorem read_numeral {c : Char} (hc : c = '-' ∨ c.isDigit = true) (s : List Char) :
    read (c :: s) = (readNumeral (c :: s)).map fun (n, s) => (number n, s) := by
  rw [read.eq_11]
  all_goals
    intro _ h
    obtain ⟨rfl, -⟩ := List.cons.inj h
    rcases hc with hc | hc
    · exact absurd hc (by decide)
    · exact absurd hc (by decide)

/-- A token is read; what follows a numeral must end it. -/
theorem read_append {t : Token} {s : List Char} (h : TokenText t s) {rest : List Char}
    (hrest : ∀ n, t = number n → EndsNumeral rest) : read (s ++ rest) = some (t, rest) := by
  match t with
  | number n =>
    -- A numeral is known by its first character, which is a sign or a digit.
    obtain ⟨c, r, rfl, hc⟩ := exists_cons_numeralText h
    have hread := readNumeral_append h (hrest n rfl)
    rw [List.cons_append] at hread ⊢
    rw [read_numeral hc, hread]
    rfl
  | string q =>
    obtain ⟨r, hr, hread⟩ := Quoted.read_of_quotedText h rest
    rw [hr, read, hread]
    rfl
  | bool true | bool false | null | openArray | closeArray | openObject | closeObject | comma
  | colon =>
    obtain rfl : s = _ := h
    rfl

/-- No token starts with white space. -/
theorem exists_cons_of_tokenText {t : Token} {s : List Char} (h : TokenText t s) :
    ∃ c r, s = c :: r ∧ isBlank c = false := by
  match t with
  | number n =>
    obtain ⟨c, r, hr, hc⟩ := exists_cons_numeralText h
    refine ⟨c, r, hr, ?_⟩
    simp only [isBlank, Bool.or_eq_false_iff, beq_eq_false_iff_ne]
    rcases hc with rfl | hc
    · decide
    · refine ⟨⟨⟨?_, ?_⟩, ?_⟩, ?_⟩ <;>
      · rintro rfl
        exact absurd hc (by decide)
  | string q =>
    obtain ⟨pieces, -, hs, -⟩ := h
    exact ⟨'"', _, hs, by decide⟩
  | bool true | bool false | null | openArray | closeArray | openObject | closeObject | comma
  | colon => exact ⟨_, _, h, by decide⟩

/-- A text has these tokens: any fuel greater than its length reads them, whatever
was read before. -/
def Spells (s : List Char) (ts : List Token) : Prop :=
  ∀ done fuel, s.length < fuel → readOnto fuel done s = some (done.reverse ++ ts)

theorem spells_nil : Spells [] [] := by
  intro done fuel hfuel
  obtain ⟨k, rfl⟩ := Nat.exists_eq_add_of_lt hfuel
  simp [readOnto]

/-- A token in front of a text is read before the tokens of the text. -/
theorem Spells.cons {t : Token} {u s : List Char} {ts : List Token} (h : Spells s ts)
    (ht : TokenText t u) (hs : ∀ n, t = number n → EndsNumeral s) : Spells (u ++ s) (t :: ts) := by
  intro done fuel hfuel
  -- The token takes at least one character, so one unit of fuel can be spent on it.
  obtain ⟨c, r, rfl, hc⟩ := exists_cons_of_tokenText ht
  have hread : read ((c :: r) ++ s) = some (t, s) := read_append ht hs
  rw [List.cons_append] at hread hfuel ⊢
  simp only [List.length_cons, List.length_append] at hfuel
  obtain ⟨fuel, rfl⟩ : ∃ k, fuel = k + 1 := ⟨fuel - 1, by omega⟩
  have later := h (t :: done) fuel (by omega)
  simp only [readOnto, List.dropWhile_cons, hc, Bool.false_eq_true, if_false, hread, later,
    List.reverse_cons, List.append_assoc, List.singleton_append]

/-- White space in front of a text is passed over. -/
theorem Spells.blanks {blanks s : List Char} {ts : List Token} (h : Spells s ts)
    (hblanks : ∀ c ∈ blanks, isBlank c = true) : Spells (blanks ++ s) ts := by
  intro done fuel hfuel
  rw [List.length_append] at hfuel
  have hsame : readOnto fuel done (blanks ++ s) = readOnto fuel done s := by
    cases fuel with
    | zero => rfl
    | succ fuel => rw [readOnto, readOnto, List.dropWhile_append_of_pos hblanks]
  rw [hsame]
  exact h done fuel (by omega)

theorem Spells.readAll_eq {s : List Char} {ts : List Token} (h : Spells s ts) :
    readAll s = some ts :=
  h [] (s.length + 1) (Nat.lt_succ_self _)

/-- A token that is neither number nor string is read whatever follows. -/
theorem Spells.mark {s : List Char} {ts : List Token} (h : Spells s ts) (t : Token)
    (ht : TokenText t t.written) (hn : ∀ n, t ≠ number n) : Spells (t.written ++ s) (t :: ts) :=
  h.cons ht fun n hnumber => absurd hnumber (hn n)

/-- A character that cannot be part of a numeral ends every one. -/
theorem endsNumeral_cons {c : Char} (h : c.isDigit = false ∧ c ≠ '.' ∧ c ≠ 'e' ∧ c ≠ 'E')
    (s : List Char) : EndsNumeral (c :: s) := by
  intro d hd
  obtain rfl : c = d := Option.some.inj hd
  exact h

/-- White space ends a numeral, if there is any. -/
theorem endsNumeral_blanks {blanks s : List Char} (hblanks : ∀ c ∈ blanks, isBlank c = true)
    (hs : EndsNumeral s) : EndsNumeral (blanks ++ s) := by
  match blanks with
  | [] => exact hs
  | c :: cs =>
    have hc := hblanks c List.mem_cons_self
    simp only [isBlank, Bool.or_eq_true, beq_iff_eq] at hc
    apply endsNumeral_cons
    rcases hc with ((rfl | rfl) | rfl) | rfl
    all_goals decide

end Token

/-! ## The grammar -/

/-- The texts of the name of a member. -/
def NameText (q : Quoted) (s : List Char) : Prop :=
  ∃ before text after, s = before ++ (text ++ after) ∧ Quoted.QuotedText q text ∧
    (∀ c ∈ before, Token.isBlank c = true) ∧ ∀ c ∈ after, Token.isBlank c = true

/-- A member of an object with the texts of its name and of its value. -/
structure MemberText where
  name      : Quoted
  nameText  : List Char
  value     : Json
  valueText : List Char

/-- The member as written out. -/
def MemberText.text (m : MemberText) : List Char := m.nameText ++ ':' :: m.valueText

/-- The texts of a value.  Items and members come with the texts that they have in
the text of their array or object. -/
inductive JsonText : Json → List Char → Prop
  | null : JsonText null Token.null.written
  | bool (b : Bool) : JsonText (bool b) (Token.bool b).written
  | number {n : Numeral} {s : List Char} (text : Token.NumeralText n s) : JsonText (number n) s
  | string {q : Quoted} {s : List Char} (text : Quoted.QuotedText q s) : JsonText (string q) s
  | emptyArray (blanks : List Char) (isBlank : ∀ c ∈ blanks, Token.isBlank c = true) :
      JsonText (array []) ('[' :: (blanks ++ [']']))
  | array (items : List (Json × List Char)) (ne_nil : items ≠ [])
      (texts : ∀ p ∈ items, JsonText p.1 p.2) :
      JsonText (array (items.map Prod.fst)) ('[' :: ([','].intercalate (items.map Prod.snd) ++ [']']))
  | emptyObject (blanks : List Char) (isBlank : ∀ c ∈ blanks, Token.isBlank c = true) :
      JsonText (object []) ('\x7b' :: (blanks ++ ['\x7d']))
  | object (members : List MemberText) (ne_nil : members ≠ [])
      (names : ∀ m ∈ members, NameText m.name m.nameText)
      (texts : ∀ m ∈ members, JsonText m.value m.valueText) :
      JsonText (object (members.map fun m => (m.name, m.value)))
        ('\x7b' :: ([','].intercalate (members.map MemberText.text) ++ ['\x7d']))
  | blanks {j : Json} {before s after : List Char} (text : JsonText j s)
      (isBlank_before : ∀ c ∈ before, Token.isBlank c = true)
      (isBlank_after : ∀ c ∈ after, Token.isBlank c = true) :
      JsonText j (before ++ (s ++ after))

/-! ## The tokens of a text -/

/-- A text in front of another one adds these tokens, if the other one cannot go on
with a numeral. -/
def Adds (s : List Char) (ts : List Token) : Prop :=
  ∀ (rest : List Char) (later : List Token), Token.Spells rest later → Token.EndsNumeral rest →
    Token.Spells (s ++ rest) (ts ++ later)

theorem adds_token {t : Token} {s : List Char} (h : Token.TokenText t s) : Adds s [t] := by
  intro rest later hrest hends
  exact hrest.cons h fun _ _ => hends

theorem adds_blanks {before s after : List Char} {ts : List Token} (h : Adds s ts)
    (hbefore : ∀ c ∈ before, Token.isBlank c = true)
    (hafter : ∀ c ∈ after, Token.isBlank c = true) : Adds (before ++ (s ++ after)) ts := by
  intro rest later hrest hends
  have inside := h _ _ (hrest.blanks hafter) (Token.endsNumeral_blanks hafter hends)
  rw [List.append_assoc, List.append_assoc]
  exact inside.blanks hbefore

theorem adds_name {q : Quoted} {s : List Char} (h : NameText q s) : Adds s [.string q] := by
  obtain ⟨before, text, after, rfl, htext, hbefore, hafter⟩ := h
  exact adds_blanks (adds_token (t := .string q) htext) hbefore hafter

theorem adds_member {m : MemberText} (hname : NameText m.name m.nameText)
    (h : Adds m.valueText m.value.tokens) :
    Adds m.text (.string m.name :: .colon :: m.value.tokens) := by
  intro rest later hrest hends
  have colon := (h _ _ hrest hends).mark .colon rfl (by simp)
  have named := adds_name hname _ _ colon (Token.endsNumeral_cons (by decide) _)
  rw [MemberText.text, List.append_assoc]
  exact named

/-- Items and the commas between them. -/
theorem adds_items : (items : List (Json × List Char)) → items ≠ [] →
    (∀ p ∈ items, Adds p.2 p.1.tokens) →
    Adds ([','].intercalate (items.map Prod.snd)) (itemTokens (items.map Prod.fst))
  | [], hne, _ => absurd rfl hne
  | [p], _, h => by
    show Adds ([','].intercalate [p.2]) p.1.tokens
    rw [List.intercalate_singleton]
    exact h p List.mem_cons_self
  | p :: p' :: ps, _, h => by
    intro rest later hrest hends
    have others := adds_items (p' :: ps) (List.cons_ne_nil _ _)
      (fun p hp => h p (List.mem_cons_of_mem _ hp)) _ _ hrest hends
    -- The comma ends a numeral, whatever the next item is.
    have first := h p List.mem_cons_self _ _ (others.mark .comma rfl (by simp))
      (Token.endsNumeral_cons (by decide) _)
    simp only [List.map_cons, List.intercalate_cons_cons, itemTokens, List.append_assoc] at first ⊢
    exact first

/-- Members and the commas between them. -/
theorem adds_members : (members : List MemberText) → members ≠ [] →
    (∀ m ∈ members, Adds m.text (.string m.name :: .colon :: m.value.tokens)) →
    Adds ([','].intercalate (members.map MemberText.text))
      (memberTokens (members.map fun m => (m.name, m.value)))
  | [], hne, _ => absurd rfl hne
  | [m], _, h => by
    show Adds ([','].intercalate [m.text]) (.string m.name :: .colon :: m.value.tokens)
    rw [List.intercalate_singleton]
    exact h m List.mem_cons_self
  | m :: m' :: ms, _, h => by
    intro rest later hrest hends
    have others := adds_members (m' :: ms) (List.cons_ne_nil _ _)
      (fun m hm => h m (List.mem_cons_of_mem _ hm)) _ _ hrest hends
    -- A comma follows the first member, so no numeral at its end runs on.
    have first := h m List.mem_cons_self _ _ (others.mark .comma rfl (by simp))
      (Token.endsNumeral_cons (by decide) _)
    simp only [List.map_cons, List.intercalate_cons_cons, memberTokens, List.append_assoc,
      List.cons_append] at first ⊢
    exact first

/-- What stands between two marks, and the marks. -/
theorem adds_between (opening closing : Token) {s : List Char} {ts : List Token} (h : Adds s ts)
    (hopening : Token.TokenText opening opening.written)
    (hclosing : Token.TokenText closing closing.written)
    (hnumbers : ∀ n, opening ≠ .number n ∧ closing ≠ .number n)
    (hends : ∀ rest, Token.EndsNumeral (closing.written ++ rest)) :
    Adds (opening.written ++ (s ++ closing.written)) (opening :: ts ++ [closing]) := by
  intro rest later hrest _
  have closed := hrest.mark closing hclosing fun n => (hnumbers n).2
  have opened := (h _ _ closed (hends rest)).mark opening hopening fun n => (hnumbers n).1
  simp only [List.append_assoc, List.cons_append, List.nil_append] at opened ⊢
  exact opened

/-- White space between two marks adds nothing. -/
theorem adds_nothing {blanks : List Char} (hblanks : ∀ c ∈ blanks, Token.isBlank c = true) :
    Adds blanks [] := by
  intro rest later hrest _
  exact hrest.blanks hblanks

/-- A text of a value has the tokens of the value. -/
theorem adds_of_jsonText {j : Json} {s : List Char} (h : JsonText j s) : Adds s j.tokens := by
  have brackets {s : List Char} {ts : List Token} (h : Adds s ts) :
      Adds ('[' :: (s ++ [']'])) (.openArray :: ts ++ [.closeArray]) :=
    adds_between .openArray .closeArray h rfl rfl (by simp)
      fun rest => Token.endsNumeral_cons (by decide) rest
  have braces {s : List Char} {ts : List Token} (h : Adds s ts) :
      Adds ('\x7b' :: (s ++ ['\x7d'])) (.openObject :: ts ++ [.closeObject]) :=
    adds_between .openObject .closeObject h rfl rfl (by simp)
      fun rest => Token.endsNumeral_cons (by decide) rest
  -- The induction is on the grammar; brackets and braces add what is between them.
  induction h with
  | null => exact adds_token rfl
  | bool b =>
    cases b with
    | true => exact adds_token rfl
    | false => exact adds_token rfl
  | number text => exact adds_token text
  | string text => exact adds_token text
  | emptyArray _ isBlank => exact brackets (adds_nothing isBlank)
  | array _ ne_nil _ ih => exact brackets (adds_items _ ne_nil ih)
  | emptyObject _ isBlank => exact braces (adds_nothing isBlank)
  | object _ ne_nil names _ ih =>
    exact braces (adds_members _ ne_nil fun m hm => adds_member (names m hm) (ih m hm))
  | blanks _ hbefore hafter ih => exact adds_blanks ih hbefore hafter

/-! ## The machine -/

/-- A step that succeeds goes on. -/
theorem run_cons {p : Phase} {t : Token} (p' : Phase) (h : step p t = some p') (ts : List Token) :
    run p (t :: ts) = run p' ts := by
  rw [run, h]

/-- The first item of an array is read like any other. -/
theorem run_firstItem (j : Json) (js : List Json) (frames : List Frame) (ts : List Token) :
    run (.firstItem frames) (itemTokens (j :: js) ++ ts) =
      run (.value (.array [] :: frames)) (itemTokens (j :: js) ++ ts) := by
  cases js <;> cases j <;> rfl

/-- So is the first name of an object. -/
theorem run_firstName (m : Quoted × Json) (ms : List (Quoted × Json)) (frames : List Frame)
    (ts : List Token) :
    run (.firstName frames) (memberTokens (m :: ms) ++ ts) =
      run (.name [] frames) (memberTokens (m :: ms) ++ ts) := by
  cases ms <;> rfl

mutual

/-- The tokens of a value complete it, and the open frames stay as they are. -/
theorem run_tokens : (j : Json) → (frames : List Frame) → (ts : List Token) →
    run (.value frames) (j.tokens ++ ts) = run (.done j frames) ts
  | null, _, _ => rfl
  | bool _, _, _ => rfl
  | number _, _, _ => rfl
  | string _, _, _ => rfl
  | array [], _, _ => rfl
  | array (j :: js), frames, ts => by
    -- The items are read onto the frame of this array, which is then closed.
    rw [tokens, List.cons_append, List.cons_append, List.append_assoc, List.singleton_append,
      run_cons (.firstItem frames) rfl, run_firstItem j js, run_items (j :: js) (by simp)]
    rfl
  | object [], _, _ => rfl
  | object (m :: ms), frames, ts => by
    rw [tokens, List.cons_append, List.cons_append, List.append_assoc, List.singleton_append,
      run_cons (.firstName frames) rfl, run_firstName m ms, run_members (m :: ms) (by simp)]
    rfl

/-- The tokens of items and the end of their array add them to those read before. -/
theorem run_items : (items : List Json) → items ≠ [] → (before : List Json) →
    (frames : List Frame) → (ts : List Token) →
    run (.value (.array before :: frames)) (itemTokens items ++ .closeArray :: ts) =
      run (.done (array (before.reverse ++ items)) frames) ts
  | [], h, _, _, _ => absurd rfl h
  | [j], _, before, frames, ts => by
    rw [itemTokens, run_tokens j, run_cons (.done (array (j :: before).reverse) frames) rfl,
      List.reverse_cons]
  | j :: j' :: js, _, before, frames, ts => by
    rw [itemTokens, List.append_assoc, run_tokens j, List.cons_append,
      run_cons (.value (.array (j :: before) :: frames)) rfl, run_items (j' :: js) (by simp),
      List.reverse_cons, List.append_assoc, List.singleton_append]
    exact List.cons_ne_nil _ _

/-- So do the tokens of members and the end of their object. -/
theorem run_members : (members : List (Quoted × Json)) → members ≠ [] →
    (before : List (Quoted × Json)) → (frames : List Frame) → (ts : List Token) →
    run (.name before frames) (memberTokens members ++ .closeObject :: ts) =
      run (.done (object (before.reverse ++ members)) frames) ts
  | [], h, _, _, _ => absurd rfl h
  | [(k, j)], _, before, frames, ts => by
    rw [memberTokens, List.cons_append, run_cons (.colon before k frames) rfl, List.cons_append,
      run_cons (.value (.object before k :: frames)) rfl, run_tokens j,
      run_cons (.done (object ((k, j) :: before).reverse) frames) rfl, List.reverse_cons]
  | (k, j) :: m :: ms, _, before, frames, ts => by
    rw [memberTokens, List.cons_append, List.cons_append, List.append_assoc,
      run_cons (.colon before k frames) rfl, List.cons_append,
      run_cons (.value (.object before k :: frames)) rfl, run_tokens j, List.cons_append,
      run_cons (.name ((k, j) :: before) frames) rfl, run_members (m :: ms) (by simp),
      List.reverse_cons, List.append_assoc, List.singleton_append]
    exact List.cons_ne_nil _ _

end

theorem ofTokens_tokens (j : Json) : ofTokens j.tokens = some j := by
  have h := run_tokens j [] []
  rw [List.append_nil] at h
  rw [ofTokens, h]
  rfl

/-! ## Texts are read -/

/-- Every text of a value is read as the value. -/
theorem read_of_jsonText {j : Json} {s : List Char} (h : JsonText j s) : read s = some j := by
  have spelled := adds_of_jsonText h _ _ Token.spells_nil (by simp [Token.EndsNumeral])
  rw [List.append_nil, List.append_nil] at spelled
  rw [read, spelled.readAll_eq, Option.bind_some, ofTokens_tokens]

end ChatDice.Json
