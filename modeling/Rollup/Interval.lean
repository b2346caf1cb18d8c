import Rollup.Text.Blank
import Rollup.Text.Casing
import Rollup.Text.Split

/-!
# Intervals

The width of a time bucket: a positive number of seconds that a signed word
holds. It is written in the largest of days, hours, minutes and seconds that
divides it, and read from that form, from weeks, or from the name of a unit.
-/

namespace Rollup

/-- A positive number of seconds that a signed word holds. -/
structure Interval where
  seconds : Nat
  pos : 0 < seconds
  lt : seconds < Word.signedBound
deriving DecidableEq

namespace Interval

/-- The interval of a number of seconds, if it is one. -/
def ofNat? (seconds : Nat) : Option Interval :=
  if h : 0 < seconds ∧ seconds < Word.signedBound then some ⟨seconds, h.1, h.2⟩ else none

/-- The interval of a number of seconds that may be negative. -/
def ofSeconds? (seconds : Int) : Option Interval := ofNat? seconds.toNat

def minute : Interval := ⟨60, by decide, by decide⟩

def hour : Interval := ⟨3600, by decide, by decide⟩

def day : Interval := ⟨86400, by decide, by decide⟩

def week : Interval := ⟨604800, by decide, by decide⟩

instance : Inhabited Interval := ⟨day⟩

/-- The longest span that can be counted in milliseconds by a signed word, in seconds. -/
def longestSpan : Nat := 9223372036854775

/-- The seconds of an interval as a span of time, if it can be counted in milliseconds. -/
def span? (i : Interval) : Option Nat :=
  if i.seconds ≤ longestSpan then some i.seconds else none

/-- A number and the largest unit that divides the interval. -/
def write (i : Interval) : List Char :=
  if i.seconds % day.seconds = 0 then Nat.toDigits 10 (i.seconds / day.seconds) ++ ['d']
  else if i.seconds % hour.seconds = 0 then Nat.toDigits 10 (i.seconds / hour.seconds) ++ ['h']
  else if i.seconds % minute.seconds = 0 then
    Nat.toDigits 10 (i.seconds / minute.seconds) ++ ['m']
  else Nat.toDigits 10 i.seconds ++ ['s']

/-- The written form, as a string. -/
def render (i : Interval) : String := String.ofList i.write

/-- The seconds of a unit given by its letter. -/
def unit? : List Char → Option Nat
  | ['s'] => some 1
  | ['m'] => some minute.seconds
  | ['h'] => some hour.seconds
  | ['d'] => some day.seconds
  | ['w'] => some week.seconds
  | _ => none

/-- The interval of a unit given by its name. -/
def named? (cs : List Char) : Option Interval :=
  if cs = "minute".toList then some minute
  else if cs = "hour".toList then some hour
  else if cs = "day".toList then some day
  else if cs = "week".toList then some week
  else none

/-- Digits and the letter of a unit. A signed word has to hold the number as well as its seconds. -/
def counted? (cs : List Char) : Option Interval := do
  let n ← (Text.digits? (cs.takeWhile Char.isDigit)).bind Word.signed?
  let unit ← unit? (cs.dropWhile Char.isDigit)
  let seconds ← Word.signed? (n * unit)
  ofNat? seconds

/-- Reads an interval from normalised text. -/
def ofChars? (cs : List Char) : Option Interval :=
  match named? cs with
  | some i => some i
  | none => counted? cs

/-- Reads an interval; blanks around it and case do not matter. -/
def ofText? (text : String) : Option Interval :=
  ofChars? (Text.lowercase (Text.trim text.toList))

end Interval

end Rollup
