/-!
# Dates of the proleptic Gregorian calendar

A date is named by year, month and day, and counted in days from 1970-01-01.
Years before year 1 are 0, -1 and so on, by the same leap rule.

The count goes through the first day of each year, which is a formula in
floor divisions. Going back, the mean length of a year gives a guess that is at
most one year off, and one comparison on each side mends it.
-/

namespace Rollup.Calendar

/-- A year, a month from 1 to 12 and a day from 1. -/
structure Date where
  year : Int
  month : Nat
  day : Nat
deriving DecidableEq, Repr

/-- Every fourth year is a leap year, but of the full centuries only every fourth. -/
def isLeapYear (year : Int) : Bool :=
  year % 4 = 0 && (year % 100 ≠ 0 || year % 400 = 0)

/-- The lengths of the months of a year. -/
def monthLengths (year : Int) : List Nat :=
  [31, if isLeapYear year then 29 else 28, 31, 30, 31, 30, 31, 31, 30, 31, 30, 31]

/-- The length of a month. -/
def monthLength (year : Int) (month : Nat) : Nat := (monthLengths year).getD (month - 1) 0

/-- Days from 0000-01-01 to the first day of a year. -/
def yearStart (year : Int) : Int :=
  365 * year + (year + 3) / 4 - (year + 99) / 100 + (year + 399) / 400

/-- The days from 0000-01-01 to 1970-01-01. -/
def epochDay : Int := 719528

/-- The year that a day lies in, counted from 0000-01-01. -/
def yearOfDay (day : Int) : Int :=
  let guess := day * 400 / 146097
  if day < yearStart guess then guess - 1
  else if yearStart (guess + 1) ≤ day then guess + 1
  else guess

/-- The days in the first `n` of some months. -/
def daysInFirst : List Nat → Nat → Nat
  | _, 0 => 0
  | [], _ => 0
  | length :: lengths, n + 1 => length + daysInFirst lengths n

/-- Splits the days since the start of a year into whole months and the rest. -/
def splitMonths : List Nat → Nat → Nat × Nat
  | [], rest => (0, rest)
  | length :: lengths, rest =>
      if rest < length then (0, rest)
      else
        let (months, rest) := splitMonths lengths (rest - length)
        (months + 1, rest)

namespace Date

/-- Whether there is such a day. -/
def isValid (d : Date) : Bool :=
  1 ≤ d.month && d.month ≤ 12 && 1 ≤ d.day && d.day ≤ monthLength d.year d.month

/-- Days from 1970-01-01. -/
def toDay (d : Date) : Int :=
  yearStart d.year + daysInFirst (monthLengths d.year) (d.month - 1) + d.day - 1 - epochDay

/-- The date that is so many days from 1970-01-01. -/
def ofDay (n : Int) : Date :=
  let day := n + epochDay
  let year := yearOfDay day
  let (months, rest) := splitMonths (monthLengths year) (day - yearStart year).toNat
  ⟨year, months + 1, rest + 1⟩

/-- The same day of the month before, or that month's last day where it is shorter. -/
def monthBefore (d : Date) : Date :=
  let (year, month) := if d.month = 1 then (d.year - 1, 12) else (d.year, d.month - 1)
  ⟨year, month, min d.day (monthLength year month)⟩

end Date

/-- A year starts where the year before ends. -/
theorem yearStart_succ (year : Int) :
    yearStart (year + 1) = yearStart year + if isLeapYear year then 366 else 365 := by
  have h : isLeapYear year = true ↔ year % 4 = 0 ∧ (year % 100 ≠ 0 ∨ year % 400 = 0) := by
    simp [isLeapYear]
  by_cases hl : isLeapYear year = true
  · have := h.1 hl
    simp only [yearStart, hl, if_true]
    omega
  · have := mt h.2 hl
    simp only [yearStart, hl]
    simp only [Bool.false_eq_true, if_false]
    omega

/-- A day lies in the year that it is counted to. -/
theorem yearStart_yearOfDay_le (day : Int) :
    yearStart (yearOfDay day) ≤ day ∧ day < yearStart (yearOfDay day + 1) := by
  have hguess : ∀ year : Int, 146097 * year ≤ 400 * yearStart year + 399 ∧
      400 * yearStart year ≤ 146097 * year + 800 := by
    intro year
    simp only [yearStart]
    omega
  have hstep : ∀ year : Int, yearStart year + 365 ≤ yearStart (year + 1) := by
    intro year
    rw [yearStart_succ]
    split <;> omega
  simp only [yearOfDay]
  have h0 := hguess (day * 400 / 146097)
  have h1 := hguess (day * 400 / 146097 + 1)
  have h2 := hguess (day * 400 / 146097 - 1)
  have h3 := hguess (day * 400 / 146097 + 1 + 1)
  split
  · constructor
    · omega
    · simpa using by omega
  · split <;> constructor <;> omega

example : Date.toDay ⟨1970, 1, 1⟩ = 0 ∧ Date.ofDay (-1) = ⟨1969, 12, 31⟩ := by decide

end Rollup.Calendar
