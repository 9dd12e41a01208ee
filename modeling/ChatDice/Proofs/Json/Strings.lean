import ChatDice.Json.Quoted

/-! # JSON strings read

    A string is read piece by piece, in whatever form the pieces are, and what
    follows it is left over.  Writing keeps every piece but for its form: a control
    character without a short escape is read back as the code unit it was written as,
    and a code unit keeps its last 16 bits.  `Piece.reread` is a piece as it is read
    back.

    - `Quoted.QuotedText`: what strings look like.
    - `Quoted.read_of_quotedText`: all of these are read.
    - `Quoted.quotedText_written`: what is written is one of them.
    - `Quoted.text?_reread`: the pieces of a text still denote it.
-/

namespace ChatDice

/-- Four written digits give the last 16 bits of a number. -/
theorem Hex.value?_lastDigits (n : Nat) :
    Hex.value? [lastDigit (n / 4096), lastDigit (n / 256), lastDigit (n / 16), lastDigit n] =
      some (n % 65536) := by
  have one_digit : ∀ k : Fin 16, digitValue? (Nat.digitChar k) = some k.val := by decide
  have last (m : Nat) : digitValue? (lastDigit m) = some (m % 16) :=
    one_digit ⟨m % 16, Nat.mod_lt _ (by decide)⟩
  simp only [value?, List.foldlM_cons, List.foldlM_nil, last, Option.map_some, Option.bind_eq_bind,
    Option.bind_some, Option.pure_def, Option.some.injEq]
  omega

namespace Json

/-! ## Single pieces -/

/-- Whether a character has an escape of two characters, or none at all. -/
def Piece.isPlain (c : Char) : Bool :=
  0x20 ≤ c.toNat || c ∈ ['\x08', '\x0c', '\n', '\r', '\t']

/-- A piece as it is read back after it was written. -/
def Piece.reread : Piece → Piece
  | .char c => if isPlain c then .char c else .unit c.toNat
  | .unit n => .unit (n % 65536)

namespace Quoted

/-- A character that stands for itself. -/
theorem read_itself {c : Char} (hquote : c ≠ '"') (hslash : c ≠ '\\') (hc : ¬ c.toNat < 0x20)
    (s : List Char) : read (c :: s) = addPiece (.char c) (read s) := by
  have stays : (decide (c.toNat < 0x20) || c == '\\') = false := by simp [hc, hslash]
  rw [read]
  · rw [stays]
    rfl
  · exact hquote
  · rintro _ _ _ _ _ rfl
    exact absurd rfl hslash
  · rintro _ _ rfl
    exact absurd rfl hslash

/-- The texts of a piece: a character that needs no escape, a short escape, or the
number of a code unit with digits in either case. -/
inductive PieceText : Piece → List Char → Prop
  | itself {c : Char} (ne_quote : c ≠ '"') (ne_slash : c ≠ '\\') (big : ¬ c.toNat < 0x20) :
      PieceText (.char c) [c]
  | short {e c : Char} (escape : shortEscape? e = some c) : PieceText (.char c) ['\\', e]
  | unit {n : Nat} {a b c d : Char} (value : Hex.value? [a, b, c, d] = some n) :
      PieceText (.unit n) ['\\', 'u', a, b, c, d]

theorem read_append {p : Piece} {s : List Char} (h : PieceText p s) (rest : List Char) :
    read (s ++ rest) = addPiece p (read rest) := by
  match h with
  | .itself hquote hslash hbig => exact read_itself hquote hslash hbig rest
  | .short (e := e) hescape =>
    -- No short escape has the letter of a code unit.
    have hunit : e ≠ 'u' := by
      rintro rfl
      cases hescape
    show read ('\\' :: e :: rest) = _
    rw [read.eq_4, hescape]
    intro a b c d s h
    exact absurd h hunit
  | .unit (n := n) (a := a) (b := b) (c := c) (d := d) hvalue =>
    show read ('\\' :: 'u' :: a :: b :: c :: d :: rest) = _
    rw [read, hvalue]

/-- The texts of a string: its pieces one after the other, between quotes. -/
def QuotedText (q : Quoted) (s : List Char) : Prop :=
  ∃ pieces : List (Piece × List Char), q = pieces.map Prod.fst ∧
    s = '"' :: (pieces.flatMap Prod.snd ++ ['"']) ∧ ∀ p ∈ pieces, PieceText p.1 p.2

theorem read_pieces {pieces : List (Piece × List Char)} (h : ∀ p ∈ pieces, PieceText p.1 p.2)
    (rest : List Char) :
    read (pieces.flatMap Prod.snd ++ '"' :: rest) = some (pieces.map Prod.fst, rest) := by
  induction pieces with
  | nil => rfl
  | cons p ps ih =>
    have hlater := ih fun p' hp' => h p' (List.mem_cons_of_mem _ hp')
    rw [List.flatMap_cons, List.append_assoc, read_append (h p List.mem_cons_self), hlater]
    rfl

/-- A string starts with a quote, and after it the pieces are read. -/
theorem read_of_quotedText {q : Quoted} {s : List Char} (h : QuotedText q s) (rest : List Char) :
    ∃ r, s ++ rest = '"' :: r ∧ read r = some (q, rest) := by
  obtain ⟨pieces, rfl, rfl, hpieces⟩ := h
  refine ⟨pieces.flatMap Prod.snd ++ '"' :: rest, by simp, read_pieces hpieces rest⟩

/-! ## What is written -/

theorem pieceText_writtenUnit (n : Nat) : PieceText (.unit (n % 65536)) (writtenUnit n) :=
  .unit (Hex.value?_lastDigits n)

/-- A character, by the forms it can be written in. -/
theorem pieceText_writtenChar (c : Char) : PieceText (Piece.reread (.char c)) (writtenChar c) := by
  unfold writtenChar
  -- The characters with a short escape, in the order in which the writer asks for them.
  by_cases hquote : c = '"'
  · subst hquote
    exact .short rfl
  by_cases hslash : c = '\\'
  · subst hslash
    exact .short rfl
  by_cases hback : c = '\x08'
  · subst hback
    exact .short rfl
  by_cases hfeed : c = '\x0c'
  · subst hfeed
    exact .short rfl
  by_cases hline : c = '\n'
  · subst hline
    exact .short rfl
  by_cases hreturn : c = '\r'
  · subst hreturn
    exact .short rfl
  by_cases htab : c = '\t'
  · subst htab
    exact .short rfl
  rw [if_neg hquote, if_neg hslash, if_neg hback, if_neg hfeed, if_neg hline, if_neg hreturn,
    if_neg htab]
  -- Any other is written by number below the space, and stands for itself above.
  by_cases hc : c.toNat < 0x20
  · have hplain : Piece.isPlain c = false := by
      simp [Piece.isPlain, hback, hfeed, hline, hreturn, htab, hc]
    have hunit := pieceText_writtenUnit c.toNat
    rw [Nat.mod_eq_of_lt (by omega)] at hunit
    rw [if_pos hc, Piece.reread, hplain]
    exact hunit
  · have hplain : Piece.isPlain c = true := by
      simp only [Piece.isPlain, Bool.or_eq_true, decide_eq_true_eq]
      exact .inl (by omega)
    rw [if_neg hc, Piece.reread, hplain]
    exact .itself hquote hslash hc

theorem pieceText_written (p : Piece) : PieceText p.reread (writtenPiece p) := by
  match p with
  | .char c => exact pieceText_writtenChar c
  | .unit n => exact pieceText_writtenUnit n

/-- A string as it is read back. -/
def reread (q : Quoted) : Quoted := q.map Piece.reread

/-- A written string is a text of the string that is read back. -/
theorem quotedText_written (q : Quoted) : QuotedText q.reread q.written := by
  refine ⟨q.map fun p => (p.reread, writtenPiece p), ?_, ?_, ?_⟩
  · rw [List.map_map]
    rfl
  · rw [List.flatMap_map]
    rfl
  · intro p hp
    obtain ⟨p, -, rfl⟩ := List.mem_map.1 hp
    exact pieceText_written p

/-- A code unit below the surrogates denotes its character. -/
theorem chars?_unit_cons {n : Nat} (hn : n < 0xD800) (q : Quoted) :
    chars? (.unit n :: q) = (chars? q).map (Char.ofNat n :: ·) := by
  have hhigh : isHigh n = false := by simp [isHigh]; omega
  have hlow : isLow n = false := by simp [isLow]; omega
  cases q with
  | nil => simp [chars?, hhigh, hlow]
  | cons p ps => cases p <;> simp [chars?, hhigh, hlow]

theorem chars?_ofText (s : List Char) : chars? (s.map .char) = some s := by
  induction s with
  | nil => rfl
  | cons c cs ih => rw [List.map_cons, chars?, ih]; rfl

/-- The pieces of a text denote it. -/
@[simp] theorem text?_ofText (s : String) : (ofText s).text? = some s := by
  rw [text?, ofText, chars?_ofText, Option.map_some, String.ofList_toList]

theorem chars?_reread (s : List Char) : chars? (reread (s.map .char)) = some s := by
  induction s with
  | nil => rfl
  | cons c cs ih =>
    show chars? ((Piece.char c).reread :: reread (cs.map .char)) = _
    by_cases hplain : Piece.isPlain c = true
    · rw [Piece.reread, if_pos hplain, chars?, ih]
      rfl
    · -- What changes its form is a control character, far below the surrogates.
      have hc : c.toNat < 0x20 := by
        simp only [Piece.isPlain, Bool.or_eq_true, decide_eq_true_eq, not_or] at hplain
        omega
      rw [Piece.reread, if_neg hplain, chars?_unit_cons (by omega), ih, Char.ofNat_toNat]
      rfl

/-- The pieces of a text, read back, still denote it. -/
@[simp] theorem text?_reread (s : String) : (reread (ofText s)).text? = some s := by
  rw [text?, ofText, chars?_reread, Option.map_some, String.ofList_toList]

end Quoted

end Json

end ChatDice
