/-! # Sources of die values

    A source answers a request for one die of some number of sides with a value
    and the source to use next, or has run out.  Values may be queued up in
    advance, constant, always the highest, or drawn from a seeded generator.
    `Tape` is the unending source: any sequence of values, read one by one.
-/

namespace ChatDice

/-! ## What a source does -/

/-- A type whose values can be asked for die values. -/
class DieSource (σ : Type) where
  /-- The value of one die with the given number of sides, and the source after
  it; `none` if no value is left. -/
  next : σ → UInt16 → Option (UInt16 × σ)

/-! ## The seeded generator -/

/-- A generator with a 64-bit state that steps by a constant; each value mixes
the two halves of a 128-bit product. -/
structure Wyrand where
  state : UInt64
  deriving DecidableEq

namespace Wyrand

/-- The next 64 bits. -/
def step (g : Wyrand) : UInt64 × Wyrand :=
  let s := g.state + 0x2d358dccaa6c78a5
  let t := s.toNat * (s ^^^ 0x8bb84b93962eacc9).toNat
  (UInt64.ofNat t ^^^ UInt64.ofNat (t >>> 64), ⟨s⟩)

/-- The low half of the next 64 bits, scaled by `n`. -/
def scaled (n : Nat) (g : Wyrand) : Nat × Wyrand :=
  let (bits, g) := g.step
  (bits.toNat % UInt32.size * n, g)

/-- Draws scaled values until the low half of one reaches `bound`, so that each
result is equally likely.  A full period of the state bounds the search. -/
def unbiased (n bound : Nat) : Nat → Wyrand → Option (Nat × Wyrand)
  | 0,        _ => none
  | fuel + 1, g =>
    let (p, g) := g.scaled n
    if p % UInt32.size < bound then unbiased n bound fuel g else some (p, g)

/-- A value below `n`, for positive `n`: the high half of a scaled value.  The
bound for redrawing is only worked out when the low half is below `n`. -/
def below (n : Nat) (g : Wyrand) : Option (Nat × Wyrand) :=
  let (p, g) := g.scaled n
  -- The bound is below `n`, so a low half of at least `n` needs no look at it.
  if p % UInt32.size < n then
    let bound := (UInt32.size - n) % n
    if p % UInt32.size < bound then
      (unbiased n bound UInt64.size g).map fun (p, g) => (p / UInt32.size, g)
    else some (p / UInt32.size, g)
  else some (p / UInt32.size, g)

/-- A die value: from 1 to the number of sides, or 0 for a die without sides,
which costs no draw. -/
def die (g : Wyrand) (sides : UInt16) : Option (UInt16 × Wyrand) :=
  if sides = 0 then some (0, g)
  else (g.below sides.toNat).map fun (v, g) => (UInt16.ofNat (1 + v), g)

instance : DieSource Wyrand := ⟨Wyrand.die⟩

end Wyrand

/-! ## The sources of the bot -/

/-- Where die values come from. -/
inductive Source
  /-- Values given in advance, which run out. -/
  | queued (values : List UInt16)
  /-- One value for every die. -/
  | constant (value : UInt16)
  /-- The number of sides for every die. -/
  | highest
  /-- Values of a generator. -/
  | generated (g : Wyrand)
  deriving DecidableEq

namespace Source

/-- A seeded generator as a source. -/
def seeded (seed : UInt64) : Source := .generated ⟨seed⟩

/-- The next value.  Only the generator and the highest value look at the number
of sides. -/
def next : Source → UInt16 → Option (UInt16 × Source)
  | .queued [],        _     => none
  | .queued (v :: vs), _     => some (v, .queued vs)
  | .constant v,       _     => some (v, .constant v)
  | .highest,          sides => some (sides, .highest)
  | .generated g,      sides => (g.die sides).map fun (v, g) => (v, .generated g)

/-- Whether queued values are left; other sources are not asked. -/
def canRoll? : Source → Option Bool
  | .queued vs => some !vs.isEmpty
  | _          => none

instance : DieSource Source := ⟨Source.next⟩

/-- `n` dice of the same number of sides, one after the other; a die without a
value leaves the source as it is. -/
def nextEach (s : Source) : List UInt16 → List (Option UInt16)
  | []             => []
  | sides :: later =>
    match s.next sides with
    | some (v, s') => some v :: s'.nextEach later
    | none         => none :: s.nextEach later

end Source

/-! ## Unending sources -/

/-- An unending sequence of values, and how many of them have been drawn. -/
structure Tape where
  value : Nat → UInt16
  drawn : Nat

/-- Reading a tape never fails, whatever the number of sides. -/
def Tape.next (t : Tape) (_sides : UInt16) : Option (UInt16 × Tape) :=
  some (t.value t.drawn, { t with drawn := t.drawn + 1 })

instance : DieSource Tape := ⟨Tape.next⟩

end ChatDice
