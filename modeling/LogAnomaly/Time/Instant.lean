import LogAnomaly.Time.Day

/-!
# Instants

* `Instant`: a moment of UTC, to the nanosecond;
* `Instant.ofLocal?`: the moment that a clock with an offset from UTC shows;
* `Instant.write`: the text of a moment.
-/

namespace LogAnomaly

/-- A moment of UTC: the second of its day and the nanoseconds after it. A leap second shows as
more than a thousand million nanoseconds after the last second of a minute. -/
structure Instant where
  day : Day
  second : Nat
  nano : Nat
  second_lt : second < 86400
  nano_lt : nano < 1000000000 ∨ (nano < 2000000000 ∧ second % 60 = 59)
  deriving DecidableEq, Repr

namespace Instant

/-- The moment with the given parts, if there is one. -/
def ofParts? (day : Day) (second nano : Nat) : Option Instant :=
  if hs : second < 86400 then
    if hn : nano < 1000000000 ∨ (nano < 2000000000 ∧ second % 60 = 59) then
      some ⟨day, second, nano, hs, hn⟩
    else none
  else none

/-- The reading of a clock. -/
structure ClockTime where
  hour : Nat
  minute : Nat
  second : Nat
  nano : Nat
  deriving DecidableEq, Repr

/-- The seconds and nanoseconds since midnight, if there is such a time. Second 60 of a minute is
its leap second. -/
def ClockTime.sinceMidnight? (t : ClockTime) : Option (Nat × Nat) :=
  if t.hour < 24 && t.minute < 60 && t.second ≤ 60 then
    let whole := 3600 * t.hour + 60 * t.minute
    if t.second = 60 then some (whole + 59, t.nano + 1000000000)
    else some (whole + t.second, t.nano)
  else none

/-- The moment at which a clock that is `offset` minutes ahead of UTC shows the given time. The
offset is less than a day. -/
def ofLocal? (day : Day) (time : ClockTime) (offset : Int) : Option Instant := do
  if 1440 ≤ offset.natAbs then none
  let (second, nano) ← time.sinceMidnight?
  let utc : Int := (second : Int) - 60 * offset
  if utc < 0 then ofParts? (← day.previous?) (utc + 86400).toNat nano
  else if 86400 ≤ utc then ofParts? (← day.next?) (utc - 86400).toNat nano
  else ofParts? day utc.toNat nano

/-- The fraction of a second with 0, 3, 6 or 9 digits, as few as hold it. -/
def fractionText (nano : Nat) : List Char :=
  if nano = 0 then []
  else if nano % 1000000 = 0 then '.' :: Day.padded 3 (nano / 1000000)
  else if nano % 1000 = 0 then '.' :: Day.padded 6 (nano / 1000)
  else '.' :: Day.padded 9 nano

/-- Date and time of UTC. -/
def text (t : Instant) : List Char :=
  let leap := t.nano / 1000000000
  t.day.text ++ 'T' :: Day.padded 2 (t.second / 3600) ++ ':' :: Day.padded 2 (t.second / 60 % 60)
    ++ ':' :: Day.padded 2 (t.second % 60 + leap) ++ fractionText (t.nano % 1000000000) ++ ['Z']

/-- The text of a moment. -/
def write (t : Instant) : String := String.ofList t.text

end Instant

end LogAnomaly
