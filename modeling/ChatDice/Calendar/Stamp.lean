import ChatDice.Text.Basic
import ChatDice.Calendar.Instant

/-! # Time stamps

    Instants as text.  Written stamps have the date, a separator, the time with
    as many groups of three fraction digits as needed, and a zone; years outside
    0 to 9999 carry a sign.

    Two readers exist.  `readZoned` is strict: four-digit year, two-digit fields,
    a zone.  `readLocal` takes a time without a zone as UTC and is lenient: short
    fields, a signed year, white space around the parts.
-/

namespace ChatDice.Instant

/-! ## Writing -/

/-- A year: four digits, or a sign and at least four digits outside 0 to 9999. -/
def writtenYear (y : Int) : List Char :=
  if 0 ≤ y ∧ y ≤ 9999 then Decimal.padded 4 y.natAbs
  else (if y < 0 then '-' else '+') :: Decimal.padded 4 y.natAbs

/-- A date as year, month and day. -/
def writtenDate (d : Date) : List Char :=
  writtenYear d.year ++ '-' :: Decimal.padded 2 d.month ++ '-' :: Decimal.padded 2 d.day

/-- A fraction of a second in 0, 3, 6 or 9 digits, whatever is enough. -/
def writtenFraction (nanos : Nat) : List Char :=
  if nanos = 0 then []
  else if nanos % 1000000 = 0 then '.' :: Decimal.padded 3 (nanos / 1000000)
  else if nanos % 1000 = 0 then '.' :: Decimal.padded 6 (nanos / 1000)
  else '.' :: Decimal.padded 9 nanos

/-- Hour, minute and second. -/
def writtenClock (t : TimeOfDay) : List Char :=
  Decimal.padded 2 t.hour ++ ':' :: Decimal.padded 2 t.minute ++ ':' :: Decimal.padded 2 t.second

/-- Date and time in UTC with a given separator and zone. -/
def written (i : Instant) (separator : Char) (zone : List Char) : List Char :=
  writtenDate i.date ++ separator :: writtenClock i.timeOfDay ++
    writtenFraction i.timeOfDay.nanos ++ zone

/-- The stamp of a log entry. -/
def entryStamp (i : Instant) : List Char := i.written 'T' ['Z']

/-- The stamp in a watermark file. -/
def watermarkStamp (i : Instant) : List Char := i.written 'T' "+00:00".toList

/-- The stamp shown in notices. -/
def noticeStamp (i : Instant) : List Char := i.written ' ' " UTC".toList

/-- The stamp that references are made from: always nine fraction digits. -/
def referenceStamp (i : Instant) : List Char :=
  writtenDate i.date ++ 'T' :: writtenClock i.timeOfDay ++
    '.' :: Decimal.padded 9 i.timeOfDay.nanos ++ ['Z']

/-! ## Parts of stamps -/

/-- A number of at least `least` digits, of which at most `most` are read, and the
text after it. -/
def readNumber (least : Nat) (most : Option Nat) (s : List Char) : Option (Nat × List Char) :=
  let ds := (match most with
    | some n => s.take n
    | none   => s).takeWhile Char.isDigit
  if ds.length < least then none else some (Decimal.value ds, s.drop ds.length)

/-- The text after a given character. -/
def readChar (c : Char) : List Char → Option (List Char)
  | a :: s => if a = c then some s else none
  | []     => none

/-- The fraction digits of a second as nanoseconds; digits past the ninth are
passed over. -/
def readFractionDigits (s : List Char) : Option (Nat × List Char) :=
  let ds := s.takeWhile Char.isDigit
  if ds.isEmpty then none
  else
    let most := ds.take 9
    some (Decimal.value most * Nat.pow 10 (9 - most.length), s.drop ds.length)

/-- A fraction, if there is a point. -/
def readFraction : List Char → Option (Nat × List Char)
  | '.' :: s => readFractionDigits s
  | s        => some (0, s)

/-- The sign of an offset; the minus sign of mathematics is also one. -/
def readOffsetSign : List Char → Option (Int × List Char)
  | '+' :: s => some (1, s)
  | '-' :: s => some (-1, s)
  | '−' :: s => some (-1, s)
  | _        => none

/-- A zone: `Z` in either case, or an offset in hours and minutes up to 23:59, as
seconds. -/
def readZone : List Char → Option (Int × List Char)
  | 'Z' :: s => some (0, s)
  | 'z' :: s => some (0, s)
  | s        => do
    let (sign, s) ← readOffsetSign s
    let (hours, s) ← readNumber 2 (some 2) s
    let s ← readChar ':' s
    let (minutes, s) ← readNumber 2 (some 2) s
    if hours ≤ 23 ∧ minutes ≤ 59 then
      some (sign * (hours * 3600 + minutes * 60 : Nat), s)
    else none

/-- First and last year of the calendar. -/
def yearRange : Int × Int := (-262143, 262142)

/-- The instant of some fields, if they exist. -/
def ofFields? (d : Date) (t : TimeOfDay) (offset : Int) : Option Instant :=
  if yearRange.1 ≤ d.year ∧ d.year ≤ yearRange.2 ∧ d.exists? ∧ t.exists? then
    some (ofFields d t offset)
  else none

/-! ## Strict reading -/

/-- The text after the separator of date and time. -/
def readSeparator : List Char → Option (List Char)
  | 'T' :: s => some s
  | 't' :: s => some s
  | ' ' :: s => some s
  | _        => none

/-- A stamp with a zone, read to the end. -/
def readZoned (s : List Char) : Option Instant := do
  let (year, s) ← readNumber 4 (some 4) s
  let s ← readChar '-' s
  let (month, s) ← readNumber 2 (some 2) s
  let s ← readChar '-' s
  let (day, s) ← readNumber 2 (some 2) s
  let s ← readSeparator s
  let (hour, s) ← readNumber 2 (some 2) s
  let s ← readChar ':' s
  let (minute, s) ← readNumber 2 (some 2) s
  let s ← readChar ':' s
  let (second, s) ← readNumber 2 (some 2) s
  let (nanos, s) ← readFraction s
  let (offset, s) ← readZone s
  if s.isEmpty then ofFields? ⟨year, month, day⟩ ⟨hour, minute, second, nanos⟩ offset else none

/-! ## Lenient reading -/

/-- A number of one or two digits after white space. -/
def readShort (s : List Char) : Option (Nat × List Char) :=
  readNumber 1 (some 2) (Text.trimStart s)

/-- A separator after white space. -/
def readSpaced (c : Char) (s : List Char) : Option (List Char) :=
  readChar c (Text.trimStart s)

/-- A year after white space: up to four digits, or a sign and any number of
digits. -/
def readYear (s : List Char) : Option (Int × List Char) :=
  match Text.trimStart s with
  | '-' :: s => (readNumber 1 none s).map fun (n, s) => (-(n : Int), s)
  | '+' :: s => (readNumber 1 none s).map fun (n, s) => ((n : Int), s)
  | s        => (readNumber 1 (some 4) s).map fun (n, s) => ((n : Int), s)

/-- A stamp without a zone, read to the end and taken as UTC. -/
def readLocal (s : List Char) : Option Instant := do
  let (year, s) ← readYear s
  let s ← readSpaced '-' s
  let (month, s) ← readShort s
  let s ← readSpaced '-' s
  let (day, s) ← readShort s
  let s ← readSpaced 'T' s
  let (hour, s) ← readShort s
  let s ← readSpaced ':' s
  let (minute, s) ← readShort s
  let s ← readSpaced ':' s
  let (second, s) ← readShort s
  let (nanos, s) ← readFraction s
  if (Text.trimStart s).isEmpty then ofFields? ⟨year, month, day⟩ ⟨hour, minute, second, nanos⟩ 0
  else none

/-- The stamp of a log entry: with a zone, or else without one. -/
def readEntryStamp (s : List Char) : Option Instant :=
  match readZoned s with
  | some i => some i
  | none   => readLocal s

end ChatDice.Instant
