import ChatDice.Text.Basic

/-! # JSON numerals

    A numeral as written: sign, whole part, fraction and exponent.  Two things
    matter about it: which integer it is, if it is written as one (`integer?`),
    and whether its value stays within double precision (`isFinite`).

    Digits are gathered into 64 bits as long as they fit; the rest only moves the
    decimal point.  The value is then scaled by a power of ten, both rounded to
    53 bits, and must stay below the point where a double overflows.
-/

namespace ChatDice.Json

/-- A number as it is written. -/
structure Numeral where
  negative : Bool
  /-- Digits before the point. -/
  whole    : List Char
  /-- Digits after the point, if there is one. -/
  fraction : List Char
  /-- Sign and digits of the exponent, if there is one. -/
  exponent : Option (Bool × List Char)
  deriving DecidableEq

namespace Numeral

/-! ## Integers -/

/-- An integer as a numeral. -/
def ofInt (i : Int) : Numeral :=
  ⟨decide (i < 0), Decimal.digits i.natAbs, [], none⟩

/-- The integer that the numeral is written as.  A fraction, an exponent or a
negative zero make it no integer. -/
def integer? (n : Numeral) : Option Int :=
  if n.fraction.isEmpty && n.exponent.isNone then
    let v := Decimal.value n.whole
    if n.negative then if v = 0 then none else some (-(v : Int)) else some v
  else none

/-- The integer of a numeral if it lies between two bounds. -/
def integerIn? (least most : Int) (n : Numeral) : Option Int :=
  n.integer?.filter fun i => least ≤ i && i ≤ most

/-! ## Rounding to double precision -/

/-- The nearest number with at most 53 significant bits; a tie goes to the even
one. -/
def round53 (n : Nat) : Nat :=
  let extra := n.log2 + 1 - 53
  let unit := Nat.pow 2 extra
  let q := n / unit
  let r := n % unit
  let up := 2 * r > unit || (2 * r == unit && q % 2 == 1)
  (if up then q + 1 else q) * unit

/-- From here on a number rounds to more than the greatest double. -/
def overflowPoint : Nat := Nat.pow 2 1024 - Nat.pow 2 970

/-- Whether a significand scaled by a power of ten stays in double precision. -/
def finiteScaled (significand : Nat) (power : Int) : Bool :=
  if power < 0 ∨ significand = 0 then true
  else if 308 < power then false
  else round53 significand * round53 (Nat.pow 10 power.toNat) < overflowPoint

/-! ## Reading the digits -/

/-- The greatest number of 64 bits. -/
def most64 : Nat := UInt64.size - 1

/-- Gathers digits while they fit in 64 bits; the result is the number and how
many digits are left over. -/
def gather (significand : Nat) : List Char → Nat × Nat
  | []      => (significand, 0)
  | d :: ds =>
    let next := significand * 10 + Decimal.digitValue d
    if most64 < next then (significand, ds.length + 1) else gather next ds

/-- The greatest exponent that is told apart from larger ones. -/
def mostExponent : Nat := Nat.pow 2 31 - 1

/-- Whether the numeral's value stays within double precision.  Whole digits that
do not fit raise the power of ten, fraction digits that fit lower it, and those
that do not are passed over.  An exponent beyond 31 bits is taken as endless. -/
def isFinite (n : Numeral) : Bool :=
  let (s, left) := gather 0 n.whole
  let (s, extra) := gather s n.fraction
  let power : Int := left - (n.fraction.length - extra : Nat)
  match n.exponent with
  | none              => finiteScaled s power
  | some (minus, ds) =>
    let e := Decimal.value ds
    if mostExponent < e then minus || s == 0
    else
      let e : Int := if minus then -(e : Int) else e
      finiteScaled s (power + e)

/-! ## Writing -/

/-- The numeral as written; of an exponent's signs only the minus is shown. -/
def written (n : Numeral) : List Char :=
  (if n.negative then ['-'] else []) ++ n.whole ++
    (if n.fraction.isEmpty then [] else '.' :: n.fraction) ++
    match n.exponent with
    | none             => []
    | some (minus, ds) => 'e' :: (if minus then '-' :: ds else ds)

end Numeral

end ChatDice.Json
