/-! # Missed attempts

    While a grammar reads a text it tries things in turn, and each attempt that
    does not fit leaves a `Miss`: where it was, what it wanted, and what was
    there.  If the text is refused, the miss that got furthest is the one worth
    reporting; `furthest` finds it, and joins what was wanted by misses that got
    equally far.  All places are byte offsets.
-/

namespace ChatDice.Command

/-! ## What a miss records -/

/-- Something an attempt wanted to find. -/
inductive Wanted
  | char (c : Char)
  | endOfInput
  deriving DecidableEq

/-- One attempt that did not fit. -/
structure Miss where
  /-- How far the attempt got; only used to compare misses. -/
  reach  : Nat
  /-- Start of the text the attempt stumbled over. -/
  start  : Nat
  /-- End of that text. -/
  stop   : Nat
  wanted : List Wanted
  /-- The character that was found, `none` for the end of the text. -/
  found  : Option Char
  deriving DecidableEq

/-! ## The miss to report -/

/-- Takes a further miss into account: a longer reach replaces what was known, an
equal reach adds to what was wanted, a shorter one changes nothing. -/
def Miss.merge (best : Option Miss) (m : Miss) : Option Miss :=
  match best with
  | none   => some m
  | some b =>
    if b.reach < m.reach then some m
    else if b.reach = m.reach then
      some { b with wanted := b.wanted ++ m.wanted.filter (!b.wanted.contains ·) }
    else some b

/-- The miss with the longest reach, the first of them on ties. -/
def furthest (misses : List Miss) : Option Miss := misses.foldl Miss.merge none

/-! ## Texts -/

/-- How a wanted thing is named in a reason. -/
def Wanted.written : Wanted → List Char
  | .char c     => ['\'', c, '\'']
  | .endOfInput => "end of input".toList

/-- Alternatives in a row: the last one follows an `or`. -/
def alternatives : List Wanted → List Char
  | []  => "something else".toList
  | [w] => w.written
  | ws  =>
    [',', ' '].intercalate (ws.dropLast.map Wanted.written) ++ ", or ".toList ++
      (ws.getLast?.map Wanted.written).getD []

/-- What was found. -/
def foundWritten : Option Char → List Char
  | some c => [c]
  | none   => "end of input".toList

/-- The reason that a miss gives for refusing a text. -/
def Miss.reason (m : Miss) : String :=
  String.ofList ("found ".toList ++ foundWritten m.found ++ " expected ".toList ++
    alternatives m.wanted)

end ChatDice.Command
