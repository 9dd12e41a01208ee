import ChatDice.Dice.Request
import ChatDice.Dice.Outcome
import ChatDice.Dice.Source

/-! # Dice pools

    A pool is some number of equal dice and a limit on the dice that explosions
    may add.  Each kind of roll starts by drawing every die of the pool; what
    follows depends on the kind.  Every operation gives back the source as it
    left it, also when it fails.

    - `normal`: all dice count.
    - `exploding`: `chain` answers every die at or above the threshold with one
      more die, in order, until none is owed or the limit is reached.
    - `imploding`: one more die for each of the first dice at or below the
      threshold.
    - `dropOne`, `keepOne`: the first extreme die is dropped, or is all that is
      kept.
-/

namespace ChatDice

/-! ## Dice -/

/-- Fewest sides of a die. -/
def minSides : UInt16 := 2

/-- Most sides of a die. -/
def maxSides : UInt16 := 1000

/-- A die with a usable number of sides. -/
structure Die where
  sides : UInt16
  valid : minSides ≤ sides ∧ sides ≤ maxSides
  deriving DecidableEq

/-- The die with the given number of sides, if there is one. -/
def Die.ofSides (sides : UInt16) : Except DiceError Die :=
  if h : minSides ≤ sides ∧ sides ≤ maxSides then .ok ⟨sides, h⟩
  else .error (.invalidSides sides)

/-- How many dice explosions may add to a roll unless settings say otherwise. -/
def defaultRollLimit : Nat := 10000

/-- A number of equal dice. -/
structure Pool where
  count : UInt16
  die   : Die
  /-- Most dice that explosions may add. -/
  limit : Nat

/-- Why a pool gave no outcome: the roll is refused, or the source has no value
left. -/
inductive PoolFault
  | refused (error : DiceError)
  | exhausted
  deriving DecidableEq

/-- What drawing dice gives: a value or a fault, and the source after it. -/
abbrev Drawn (σ α : Type) := Except PoolFault α × σ

namespace Pool

/-- The pool of `count` dice with `sides` sides and the default limit. -/
def ofDice (count sides : UInt16) : Except DiceError Pool :=
  match Die.ofSides sides with
  | .ok die  => .ok { count, die, limit := defaultRollLimit }
  | .error e => .error e

/-- The pool that a request asks for. -/
def ofRequest (q : Request) : Except DiceError Pool := ofDice q.count q.sides

/-- The pool with another limit. -/
def withLimit (p : Pool) (limit : Nat) : Pool := { p with limit := limit }

variable {σ : Type} [DieSource σ]

/-! ## Drawing -/

/-- Draws `n` more values onto those in `drawn`, which holds the last one
first. -/
def drawOnto (die : Die) : Nat → List UInt16 → σ → Drawn σ (List UInt16)
  | 0,     drawn, s => (.ok drawn, s)
  | n + 1, drawn, s =>
    match DieSource.next s die.sides with
    | some (v, s) => drawOnto die n (v :: drawn) s
    | none        => (.error .exhausted, s)

/-- Draws every die of the pool once; the last value comes first. -/
def drawAll (p : Pool) (s : σ) : Drawn σ (List UInt16) :=
  drawOnto p.die p.count.toNat [] s

/-! ## Normal rolls -/

/-- Every die counts. -/
def normal (p : Pool) (modifier : Int16) (s : σ) : Drawn σ Outcome :=
  match p.drawAll s with
  | (.ok drawn, s) => (.ok (.ofFaces drawn.reverse modifier), s)
  | (.error e, s)  => (.error e, s)

/-! ## Exploding rolls -/

/-- How many of the faces are at or above a threshold. -/
def exploded (threshold : UInt16) (faces : List UInt16) : Nat :=
  faces.countP (threshold ≤ ·)

/-- Adds dice while some are owed.  `room` more dice may be added; `owed` dice
have exploded and were not answered yet; `drawn` holds the values so far, the
last one first.  A die that is owed when there is no room left is one too
many. -/
def chain (p : Pool) (threshold : UInt16) :
    (room owed : Nat) → (drawn : List UInt16) → σ → Drawn σ (List UInt16)
  | _,        0,        drawn, s => (.ok drawn, s)
  | 0,        _ + 1,    _,     s => (.error (.refused (.tooManyRolls p.limit)), s)
  | room + 1, owed + 1, drawn, s =>
    match DieSource.next s p.die.sides with
    | some (v, s) => chain p threshold room (owed + exploded threshold [v]) (v :: drawn) s
    | none        => (.error .exhausted, s)

/-- The request that an exploding roll of the pool amounts to. -/
def explodingRequest (p : Pool) (threshold : UInt16) (modifier : Int16) : Request :=
  { kind := .exploding, count := p.count, sides := p.die.sides, modifier,
    threshold := some threshold }

/-- Every die at or above the threshold adds a die to the end, and so do the
added ones.  The threshold is the number of sides unless given.  A threshold
that every face reaches is refused before anything is drawn. -/
def exploding (p : Pool) (threshold : Option UInt16) (modifier : Int16) (s : σ) :
    Drawn σ Outcome :=
  let t := threshold.getD p.die.sides
  if 0 < p.count ∧ t ≤ 1 then
    (.error (.refused (.infiniteRolls (p.explodingRequest t modifier))), s)
  else
    match p.drawAll s with
    | (.error e, s)  => (.error e, s)
    | (.ok drawn, s) =>
      match p.chain t p.limit (exploded t drawn) drawn s with
      | (.ok drawn, s) => (.ok (.ofFaces drawn.reverse modifier), s)
      | (.error e, s)  => (.error e, s)

/-! ## Imploding rolls -/

/-- How many of the faces are at or below a threshold. -/
def imploded (threshold : UInt16) (faces : List UInt16) : Nat :=
  faces.countP (· ≤ threshold)

/-- Every one of the first dice at or below the threshold adds a die to the end;
the added ones add nothing.  The threshold is 1 unless given. -/
def imploding (p : Pool) (threshold : Option UInt16) (modifier : Int16) (s : σ) :
    Drawn σ Outcome :=
  match p.drawAll s with
  | (.error e, s)  => (.error e, s)
  | (.ok drawn, s) =>
    match drawOnto p.die (imploded (threshold.getD 1) drawn) drawn s with
    | (.ok drawn, s) => (.ok (.ofFaces drawn.reverse modifier), s)
    | (.error e, s)  => (.error e, s)

/-! ## Drop and keep rolls -/

/-- The end of the range of faces that a drop or keep roll looks for. -/
inductive Extreme
  | high
  | low
  deriving DecidableEq

/-- Whether a die is more extreme than the best one before it.  An equal one is not. -/
def Extreme.beats : Extreme → (candidate best : UInt16) → Bool
  | .high, candidate, best => best < candidate
  | .low,  candidate, best => candidate < best

/-- The kind of roll that drops an extreme die. -/
def Extreme.dropKind : Extreme → RollKind
  | .high => .dropHigh
  | .low  => .dropLow

/-- The kind of roll that keeps an extreme die. -/
def Extreme.keepKind : Extreme → RollKind
  | .high => .keepHigh
  | .low  => .keepLow

/-- One step of picking a die: `best` is the place and the face of the best die so far.
The next one comes with its place in the tail, so its place among all dice is one more. -/
def pickStep (beats : UInt16 → UInt16 → Bool) (best : Nat × UInt16) (next : UInt16 × Nat) :
    Nat × UInt16 :=
  if beats next.1 best.2 then (next.2 + 1, next.1) else best

/-- The place of the first die that no later one beats. -/
def pick (beats : UInt16 → UInt16 → Bool) : List UInt16 → Option Nat
  | []            => none
  | first :: rest => some (rest.zipIdx.foldl (pickStep beats) (0, first)).1

/-- Draws every die and marks each by whether it is the one that is picked.  In a
pool without dice there is none to pick. -/
def marked (p : Pool) (e : Extreme) (kind : RollKind) (mark : Bool → UInt16 → DieResult)
    (modifier : Int16) (s : σ) : Drawn σ Outcome :=
  match p.drawAll s with
  | (.error fault, s) => (.error fault, s)
  | (.ok drawn, s)    =>
    let faces := drawn.reverse
    match pick e.beats faces with
    | some m => (.ok (.ofDice (faces.mapIdx fun i v => mark (i == m) v) modifier), s)
    | none   => (.error (.refused (.emptyRoll kind)), s)

/-- What a drop roll makes of a die. -/
def dropMark (picked : Bool) (face : UInt16) : DieResult :=
  if picked then .dropped else .counted face

/-- What a keep roll makes of a die. -/
def keepMark (picked : Bool) (face : UInt16) : DieResult :=
  if picked then .counted face else .keptOut

/-- Drops the first highest or lowest die. -/
def dropOne (p : Pool) (e : Extreme) (modifier : Int16) (s : σ) : Drawn σ Outcome :=
  p.marked e e.dropKind dropMark modifier s

/-- Keeps only the first highest or lowest die. -/
def keepOne (p : Pool) (e : Extreme) (modifier : Int16) (s : σ) : Drawn σ Outcome :=
  p.marked e e.keepKind keepMark modifier s

/-! ## Any roll -/

/-- Rolls the pool by the kind, modifier and threshold of a request.  The number
of dice and their sides are the pool's own. -/
def roll (p : Pool) (q : Request) (s : σ) : Drawn σ Outcome :=
  match q.kind with
  | .normal    => p.normal q.modifier s
  | .exploding => p.exploding q.threshold q.modifier s
  | .imploding => p.imploding q.threshold q.modifier s
  | .dropHigh  => p.dropOne .high q.modifier s
  | .dropLow   => p.dropOne .low q.modifier s
  | .keepHigh  => p.keepOne .high q.modifier s
  | .keepLow   => p.keepOne .low q.modifier s

end Pool

end ChatDice
