import Rollup.Calendar.Instant

/-!
# Reading timestamps

The internet timestamp: `2017-06-10T12:00:00.5+02:00`. Reading goes from left
to right and stops at the first fault. The fixed part up to the seconds has 19
bytes, and a shorter text is refused before its characters are looked at.

Some liberties are taken with the format. A small `t` or a space may stand
between date and time, and a small `z` at the end. A second of 60 is accepted in
every minute. A fraction may have any number of digits, of which nine count, and
the sign of an offset may be the minus sign of typography.
-/

namespace Rollup.Calendar

/-- Why a text is no timestamp. -/
inductive TimestampError
  | tooShort
  | invalid
  | outOfRange
  | tooLong
deriving DecidableEq, Repr

/-- The wording of an error. -/
def TimestampError.message : TimestampError → String
  | tooShort => "premature end of input"
  | invalid => "input contains invalid characters"
  | outOfRange => "input is out of range"
  | tooLong => "trailing input"

namespace Timestamp

/-- A number of so many digits, and what follows it. -/
def number : Nat → Nat → List Char → Except TimestampError (Nat × List Char)
  | 0, acc, cs => .ok (acc, cs)
  | _ + 1, _, [] => .error .tooShort
  | width + 1, acc, c :: cs =>
      if c.isDigit then number width (acc * 10 + (c.toNat - '0'.toNat)) cs else .error .invalid

/-- What follows a character that has to be one of a few. -/
def expect (allowed : List Char) : List Char → Except TimestampError (List Char)
  | [] => .error .tooShort
  | c :: cs => if c ∈ allowed then .ok cs else .error .invalid

/-- Nanoseconds, if a point stands here. Digits after the ninth are passed over. -/
def fraction : List Char → Except TimestampError (Nat × List Char)
  | '.' :: cs =>
      let digits := cs.takeWhile Char.isDigit
      let kept := digits.take 9
      if digits = [] then .error (if cs = [] then .tooShort else .invalid)
      else .ok (Nat.ofDigitChars 10 kept 0 * Nat.pow 10 (9 - kept.length), cs.dropWhile Char.isDigit)
  | cs => .ok (0, cs)

/-- Two digits of an offset. One character of one byte is too little to tell. -/
def offsetPair : List Char → Except TimestampError (Nat × List Char)
  | [] => .error .tooShort
  | [c] => .error (if Text.byteLength [c] < 2 then .tooShort else .invalid)
  | c :: d :: cs => number 2 0 (c :: d :: cs)

/-- Minutes east of UTC. Any two digits are read as hours here; `parse` bounds the offset. -/
def offset : List Char → Except TimestampError (Int × List Char)
  | [] => .error .tooShort
  | sign :: cs =>
      if sign = 'Z' ∨ sign = 'z' then .ok (0, cs)
      else if sign = '+' ∨ sign = '-' ∨ sign = '−' then do
        let (hours, cs) ← offsetPair cs
        let cs ← expect [':'] cs
        let (minutes, cs) ← offsetPair cs
        if 59 < minutes then throw .outOfRange
        let east : Int := hours * 60 + minutes
        return (if sign = '+' then east else -east, cs)
      else .error .invalid

/-- Reads a timestamp. Second 60 is a leap second, in any minute. An offset of a day or more is out of
range, which is looked at once nothing follows it. -/
def parse (cs : List Char) : Except TimestampError Instant := do
  if Text.byteLength cs < 19 then throw .tooShort
  let (year, cs) ← number 4 0 cs
  let cs ← expect ['-'] cs
  let (month, cs) ← number 2 0 cs
  let cs ← expect ['-'] cs
  let (day, cs) ← number 2 0 cs
  let date : Date := ⟨year, month, day⟩
  if !date.isValid then throw .outOfRange
  let cs ← expect ['T', 't', ' '] cs
  let (hour, cs) ← number 2 0 cs
  let cs ← expect [':'] cs
  let (minute, cs) ← number 2 0 cs
  let cs ← expect [':'] cs
  let (second, cs) ← number 2 0 cs
  let (nano, cs) ← fraction cs
  if 23 < hour ∨ 59 < minute ∨ 60 < second then throw .outOfRange
  let (east, cs) ← offset cs
  if cs ≠ [] then throw .tooLong
  if 24 * 60 ≤ east.natAbs then throw .outOfRange
  let isLeap := second = 60
  let seconds : Int :=
    date.toDay * fullDay + (hour * 3600 + minute * 60 + if isLeap then 59 else second : Nat)
      - east * 60
  match Instant.ofSeconds? seconds (if isLeap then nano + fullSecond else nano) with
  | some t => return t
  | none => throw .outOfRange

end Timestamp

end Rollup.Calendar
