import ChatDice.Calendar.Date

/-! # Instants

    A point in time, in seconds since 1970 and nanoseconds.  Nanoseconds of a
    thousand million and more lie in a leap second that follows the second.
    Instants are ordered by seconds and then by nanoseconds.
-/

namespace ChatDice

/-- A point in time. -/
structure Instant where
  seconds : Int
  nanos   : Nat
  deriving DecidableEq

namespace Instant

/-- Nanoseconds of a second. -/
def nanosPerSecond : Nat := 1000000000

/-- Seconds of a day. -/
def secondsPerDay : Int := 86400

/-! ## Order -/

instance : LT Instant :=
  ⟨fun a b => a.seconds < b.seconds ∨ (a.seconds = b.seconds ∧ a.nanos < b.nanos)⟩

instance (a b : Instant) : Decidable (a < b) :=
  inferInstanceAs (Decidable (_ ∨ _))

/-- The later of two instants. -/
def latest (a b : Instant) : Instant := if a < b then b else a

/-- The next instant: one nanosecond later, or the start of the next second after
the last nanosecond of a second or leap second. -/
def next (a : Instant) : Instant :=
  if a.nanos + 1 = nanosPerSecond ∨ a.nanos + 1 = 2 * nanosPerSecond then ⟨a.seconds + 1, 0⟩
  else ⟨a.seconds, a.nanos + 1⟩

/-! ## Dates and times of day -/

/-- A time of day; second 60 is a leap second. -/
structure TimeOfDay where
  hour   : Nat
  minute : Nat
  second : Nat
  nanos  : Nat
  deriving DecidableEq

/-- Whether the fields are those of a time of day. -/
def TimeOfDay.exists? (t : TimeOfDay) : Bool :=
  t.hour ≤ 23 && t.minute ≤ 59 && t.second ≤ 60 && t.nanos < nanosPerSecond

/-- The date in UTC. -/
def date (i : Instant) : Date := Date.ofDay (i.seconds / secondsPerDay)

/-- The time of day in UTC. -/
def timeOfDay (i : Instant) : TimeOfDay :=
  let s := (i.seconds % secondsPerDay).toNat
  let leap := i.nanos / nanosPerSecond
  ⟨s / 3600, s / 60 % 60, s % 60 + leap, i.nanos % nanosPerSecond⟩

/-- The instant of a date and a time of day at an offset from UTC in seconds.  A
leap second belongs to the second before it. -/
def ofFields (d : Date) (t : TimeOfDay) (offset : Int) : Instant :=
  let s := d.toDay * secondsPerDay + (t.hour * 3600 + t.minute * 60 + min t.second 59 : Nat)
  ⟨s - offset, t.nanos + if t.second = 60 then nanosPerSecond else 0⟩

end Instant

end ChatDice
