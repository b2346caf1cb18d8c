import Rollup.Calendar.Date
import Rollup.Text.Split

/-!
# Instants

An instant is a day, a second of the day and nanoseconds. A leap second is the
second before it with nanoseconds past the full second; it exists only at the
end of a minute. The days reach over the years from -262143 to 262142.

All of this is in the type, so an instant that exists can be written, and
comparing day, second and nanosecond in turn compares instants.
-/

namespace Rollup.Calendar

/-- The first day there is: -262143-01-01. -/
def firstDay : Int := -96465292

/-- The last day there is: 262142-12-31. -/
def lastDay : Int := 95026236

/-- Nanoseconds of a full second. -/
def fullSecond : Nat := 1000000000

/-- Seconds of a day. -/
def fullDay : Nat := 86400

/-- A point of time in UTC. -/
structure Instant where
  /-- Days from 1970-01-01. -/
  day : Int
  /-- Seconds from the start of the day. -/
  second : Nat
  /-- Nanoseconds, a full second and more in a leap second. -/
  nano : Nat
  firstDay_le : firstDay ≤ day
  day_le : day ≤ lastDay
  second_lt : second < fullDay
  nano_lt : nano < 2 * fullSecond
  leap_at_minute : fullSecond ≤ nano → second % 60 = 59
deriving DecidableEq

namespace Instant

/-- The instant of a day, a second and nanoseconds, if there is one. -/
def of? (day : Int) (second nano : Nat) : Option Instant :=
  if h : firstDay ≤ day ∧ day ≤ lastDay ∧ second < fullDay ∧ nano < 2 * fullSecond ∧
      (fullSecond ≤ nano → second % 60 = 59) then
    some ⟨day, second, nano, h.1, h.2.1, h.2.2.1, h.2.2.2.1, h.2.2.2.2⟩
  else none

/-- The instant so many seconds after 1970-01-01T00:00:00Z, and nanoseconds. -/
def ofSeconds? (seconds : Int) (nano : Nat) : Option Instant :=
  of? (seconds / fullDay) (seconds % fullDay).toNat nano

/-- Seconds from 1970-01-01T00:00:00Z; a leap second counts as the second before it. -/
def seconds (t : Instant) : Int := t.day * fullDay + t.second

/-- Whether an instant comes before another. -/
def before (s t : Instant) : Bool :=
  s.day < t.day || s.day = t.day &&
    (s.second < t.second || s.second = t.second && s.nano < t.nano)

/-- The date of an instant. -/
def date (t : Instant) : Date := .ofDay t.day

/-- The same time of day a month earlier, if that day exists. -/
def monthBefore? (t : Instant) : Option Instant :=
  of? t.date.monthBefore.toDay t.second t.nano

/-- The instant whole days earlier, if that day exists. No leap second stands there, so one is
counted as the second that follows it. -/
def daysBefore? (t : Instant) (days : Nat) : Option Instant :=
  if t.nano < fullSecond then of? (t.day - days) t.second t.nano
  else ofSeconds? (t.seconds + 1 - days * fullDay) (t.nano - fullSecond)

/-! ## Writing -/

/-- A year has four digits or more; before year 0 and after 9999 it has a sign. -/
def writeYear (year : Int) : List Char :=
  if 0 ≤ year ∧ year ≤ 9999 then Text.padded 4 year.toNat
  else (if year < 0 then '-' else '+') :: Text.padded 4 year.natAbs

/-- Year, month and day. -/
def writeDate (d : Date) : List Char :=
  writeYear d.year ++ '-' :: Text.padded 2 d.month ++ '-' :: Text.padded 2 d.day

/-- Hour, minute and second. A leap second is second 60. -/
def writeClock (second nano : Nat) : List Char :=
  Text.padded 2 (second / 3600) ++ ':' :: Text.padded 2 (second / 60 % 60) ++
    ':' :: Text.padded 2 (second % 60 + nano / fullSecond)

/-- The fraction of a second in the fewest of no, three, six and nine digits that lose nothing. -/
def writeFraction (nano : Nat) : List Char :=
  let fraction := nano % fullSecond
  if fraction = 0 then []
  else if fraction % 1000000 = 0 then '.' :: Text.padded 3 (fraction / 1000000)
  else if fraction % 1000 = 0 then '.' :: Text.padded 6 (fraction / 1000)
  else '.' :: Text.padded 9 fraction

/-- An instant with its fraction of a second, in UTC. -/
def stamp (t : Instant) : String :=
  String.ofList <|
    writeDate t.date ++ 'T' :: writeClock t.second t.nano ++ writeFraction t.nano ++ ['Z']

/-- `stamp`, with the zone written as an offset. -/
def stampOffset (t : Instant) : String :=
  String.ofList <|
    writeDate t.date ++ 'T' :: writeClock t.second t.nano ++ writeFraction t.nano ++
      ['+', '0', '0', ':', '0', '0']

/-- An instant to the second. -/
def stampSecond (t : Instant) : String :=
  String.ofList <| writeDate t.date ++ 'T' :: writeClock t.second t.nano ++ ['Z']

end Instant

end Rollup.Calendar
