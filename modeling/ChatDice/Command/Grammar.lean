import ChatDice.Command.Miss

/-! # Grammars

    A grammar reads from a place in a text.  It gives a value and the place after
    it, or nothing, and in either case the misses on the way, in order.  What it
    gives never depends on misses, so a grammar can be reasoned about by its
    results alone, and the misses by themselves.
-/

namespace ChatDice.Command

/-! ## Places in a text -/

/-- What is left of a text, and how many bytes come before it. -/
structure Cursor where
  offset : Nat
  rest   : List Char

namespace Cursor

/-- The start of a text. -/
def start (text : List Char) : Cursor := ⟨0, text⟩

/-- Size in bytes of some text. -/
def sizeOf : List Char → Nat
  | []     => 0
  | c :: s => c.utf8Size + sizeOf s

/-- End of the character at the cursor, or of the text if there is none. -/
def stop (c : Cursor) : Nat := c.offset + sizeOf (c.rest.take 1)

/-- The place after the next `n` characters. -/
def advance (c : Cursor) (n : Nat) : Cursor :=
  ⟨c.offset + sizeOf (c.rest.take n), c.rest.drop n⟩

end Cursor

/-! ## The type of grammars -/

/-- What reading gave, and the misses on the way. -/
structure Trial (α : Type) where
  result : Option (α × Cursor)
  misses : List Miss

/-- A grammar for values of type `α`. -/
def Grammar (α : Type) := Cursor → Trial α

namespace Grammar

variable {α β : Type}

/-- Reads nothing and gives a value. -/
def give (a : α) : Grammar α := fun c => ⟨some (a, c), []⟩

/-- Reads one thing and then another that may depend on it. -/
def andThen (g : Grammar α) (f : α → Grammar β) : Grammar β := fun c =>
  match g c with
  | ⟨none, misses⟩         => ⟨none, misses⟩
  | ⟨some (a, c'), misses⟩ =>
    let t := f a c'
    ⟨t.result, misses ++ t.misses⟩

instance : Monad Grammar where
  pure := give
  bind := andThen

/-- Reads the first alternative, or else the second from the same place. -/
def orElse (g h : Grammar α) : Grammar α := fun c =>
  match g c with
  | ⟨some r, misses⟩ => ⟨some r, misses⟩
  | ⟨none, misses⟩   =>
    let t := h c
    ⟨t.result, misses ++ t.misses⟩

/-- Reads something if it is there. -/
def optional (g : Grammar α) : Grammar (Option α) := fun c =>
  match g c with
  | ⟨some (a, c'), misses⟩ => ⟨some (some a, c'), misses⟩
  | ⟨none, misses⟩         => ⟨some (none, c), misses⟩

/-- The first of several alternatives that fits. -/
def choice : List (Grammar α) → Grammar α
  | []      => fun _ => ⟨none, []⟩
  | g :: gs => orElse g (choice gs)

/-! ## Single characters -/

/-- A given character. -/
def char (w : Char) : Grammar Unit := fun c =>
  if c.rest.head? = some w then ⟨some ((), c.advance 1), []⟩
  else ⟨none, [⟨c.offset, c.offset, c.stop, [.char w], c.rest.head?⟩]⟩

/-- The characters of a word, one after the other. -/
def word : List Char → Grammar Unit
  | []      => give ()
  | w :: ws => andThen (char w) fun _ => word ws

/-- One of some characters.  A miss reaches past the character it looked at. -/
def oneOf (ws : List Char) : Grammar Char := fun c =>
  match c.rest.head?.filter (ws.contains ·) with
  | some a => ⟨some (a, c.advance 1), []⟩
  | none   => ⟨none, [⟨c.stop, c.offset, c.stop, ws.map .char, c.rest.head?⟩]⟩

/-- The end of the text. -/
def endOfInput : Grammar Unit := fun c =>
  if c.rest.isEmpty then ⟨some ((), c), []⟩
  else ⟨none, [⟨c.offset, c.offset, c.stop, [.endOfInput], c.rest.head?⟩]⟩

/-! ## Runs of characters -/

/-- The characters at the start of a text that belong to a class, at most
`bound` of them. -/
def runOf (p : Char → Bool) (bound : Option Nat) (s : List Char) : List Char :=
  (match bound with
    | some n => s.take n
    | none   => s).takeWhile p

/-- A run of characters of a class, possibly empty.  Unless the bound ends it, the
run ends at a miss; that miss wants nothing in particular, reaches past the
character it looked at, and reports the end of the text even where a character
was. -/
def run (p : Char → Bool) (bound : Option Nat) : Grammar (List Char) := fun c =>
  let s  := runOf p bound c.rest
  let c' := c.advance s.length
  ⟨some (s, c'), if bound = some s.length then [] else [⟨c'.stop, c'.offset, c'.stop, [], none⟩]⟩

/-- A run of at least one character. -/
def run1 (p : Char → Bool) (bound : Option Nat) : Grammar (List Char) := fun c =>
  match run p bound c with
  | ⟨some ([], _), misses⟩ => ⟨none, misses⟩
  | trial                  => trial

/-! ## Reading whole texts -/

/-- Reads a whole text.  When it is refused, the errors are the furthest miss. -/
def read (g : Grammar α) (text : List Char) : Except (List Miss) α :=
  let t := andThen g (fun a => andThen endOfInput fun _ => give a) (Cursor.start text)
  match t.result with
  | some (a, _) => .ok a
  | none        => .error (furthest t.misses).toList

end Grammar

end ChatDice.Command
