import Mathlib.Order.Monotone.Basic
import Rollup.Calendar.Date

/-!
# The date of a day

A day is found in its year by taking whole months off its number in the year,
so months and rest add up to that number again and the date counts back to the
day it came from. The day lies in the year it is counted to and the months of a
year are as long as the year, so the months never run out: the date is one that
exists.

The month before a date ends where the month of the date starts, in the same
year or in the year before, so the date goes back with it.
-/

namespace Rollup.Calendar

theorem daysInFirst_splitMonths (lengths : List Nat) (n : Nat) :
    daysInFirst lengths (splitMonths lengths n).1 + (splitMonths lengths n).2 = n := by
  induction lengths generalizing n with
  | nil => exact Nat.zero_add n
  | cons length lengths ih =>
      rw [splitMonths]
      split
      · exact Nat.zero_add n
      · show length + daysInFirst lengths (splitMonths lengths (n - length)).1 +
          (splitMonths lengths (n - length)).2 = n
        have hrest := ih (n - length)
        omega

theorem daysInFirst_succ (lengths : List Nat) (n : Nat) :
    daysInFirst lengths (n + 1) = daysInFirst lengths n + lengths.getD n 0 := by
  induction lengths generalizing n with
  | nil => cases n <;> rfl
  | cons length lengths ih =>
      cases n with
      | zero =>
          rw [daysInFirst, daysInFirst, daysInFirst, Nat.add_comm]
          rfl
      | succ n =>
          rw [daysInFirst, ih, daysInFirst, Nat.add_assoc]
          rfl

/-- As long as the months last, the rest lies within the next one. -/
theorem splitMonths_lt {lengths : List Nat} {n : Nat} (h : n < daysInFirst lengths lengths.length) :
    (splitMonths lengths n).1 < lengths.length ∧
      (splitMonths lengths n).2 < lengths.getD (splitMonths lengths n).1 0 := by
  induction lengths generalizing n with
  | nil => exact absurd h (Nat.not_lt_zero n)
  | cons length lengths ih =>
      rw [splitMonths]
      split
      · next hfirst => exact ⟨Nat.zero_lt_succ _, hfirst⟩
      · next hfirst =>
          rw [List.length_cons, daysInFirst] at h
          obtain ⟨hmonth, hrest⟩ := ih (n := n - length) (by omega)
          exact ⟨Nat.succ_lt_succ hmonth, hrest⟩

theorem daysInFirst_monthLengths (year : Int) :
    daysInFirst (monthLengths year) (monthLengths year).length =
      if isLeapYear year then 366 else 365 := by
  rw [monthLengths]
  split <;> rfl

theorem monthLength_le (year : Int) (month : Nat) : monthLength year month ≤ 31 := by
  have hall : ∀ length ∈ monthLengths year, length ≤ 31 := by
    rw [monthLengths]
    split <;> decide
  rw [monthLength, List.getD_eq_getElem?_getD]
  cases hlength : (monthLengths year)[month - 1]? with
  | none => exact Nat.zero_le 31
  | some length => exact hall length (List.mem_of_getElem? hlength)

/-- The number of a day in its year. -/
def dayOfYear (n : Int) : Nat := (n + epochDay - yearStart (yearOfDay (n + epochDay))).toNat

theorem dayOfYear_lt (n : Int) :
    dayOfYear n < daysInFirst (monthLengths (yearOfDay (n + epochDay)))
      (monthLengths (yearOfDay (n + epochDay))).length := by
  have hbounds := yearStart_yearOfDay_le (n + epochDay)
  rw [yearStart_succ] at hbounds
  rw [dayOfYear, daysInFirst_monthLengths]
  split at hbounds
  · next hleap => rw [if_pos hleap]; omega
  · next hleap => rw [if_neg hleap]; omega

namespace Date

theorem ofDay_eq (n : Int) :
    ofDay n = ⟨yearOfDay (n + epochDay),
      (splitMonths (monthLengths (yearOfDay (n + epochDay))) (dayOfYear n)).1 + 1,
      (splitMonths (monthLengths (yearOfDay (n + epochDay))) (dayOfYear n)).2 + 1⟩ := by
  simp only [ofDay, dayOfYear]

theorem toDay_ofDay (n : Int) : (ofDay n).toDay = n := by
  have hsplit := daysInFirst_splitMonths (monthLengths (yearOfDay (n + epochDay))) (dayOfYear n)
  have hstart := (yearStart_yearOfDay_le (n + epochDay)).1
  have hnumber : (dayOfYear n : Int) = n + epochDay - yearStart (yearOfDay (n + epochDay)) := by
    rw [dayOfYear]
    omega
  rw [ofDay_eq, toDay]
  simp only [Nat.add_sub_cancel]
  omega

theorem isValid_ofDay (n : Int) : (ofDay n).isValid = true := by
  obtain ⟨hmonth, hday⟩ := splitMonths_lt (dayOfYear_lt n)
  have htwelve : (monthLengths (yearOfDay (n + epochDay))).length = 12 := rfl
  rw [ofDay_eq, isValid, monthLength]
  simp only [Nat.add_sub_cancel, Bool.and_eq_true, decide_eq_true_eq]
  omega

/-- Month and day of a date that exists have two digits at most. -/
theorem bounds_of_isValid {d : Date} (h : d.isValid = true) :
    1 ≤ d.month ∧ d.month ≤ 12 ∧ 1 ≤ d.day ∧ d.day ≤ 31 := by
  simp only [isValid, Bool.and_eq_true, decide_eq_true_eq] at h
  have hlength := monthLength_le d.year d.month
  omega

/-! ## The year of a day -/

theorem daysInFirst_le (lengths : List Nat) (n : Nat) :
    daysInFirst lengths n ≤ daysInFirst lengths lengths.length := by
  induction lengths generalizing n with
  | nil => cases n <;> exact Nat.le_refl 0
  | cons length lengths ih =>
      cases n with
      | zero => exact Nat.zero_le _
      | succ n => exact Nat.add_le_add_left (ih n) length

theorem yearStart_lt_iff {a b : Int} : yearStart a < yearStart b ↔ a < b := by
  have hmono : StrictMono yearStart := by
    refine strictMono_int_of_lt_succ fun year => ?_
    rw [yearStart_succ]
    split <;> omega
  exact hmono.lt_iff_lt

theorem yearStart_le_iff {a b : Int} : yearStart a ≤ yearStart b ↔ a ≤ b := by
  rw [← Int.not_lt, yearStart_lt_iff, Int.not_lt]

/-- A date lies in its year. -/
theorem toDay_bounds {d : Date} (h : d.isValid = true) :
    yearStart d.year ≤ d.toDay + epochDay ∧ d.toDay + epochDay < yearStart (d.year + 1) := by
  have hvalid := h
  simp only [isValid, Bool.and_eq_true, decide_eq_true_eq] at hvalid
  obtain ⟨⟨⟨hmonth, -⟩, hday⟩, hlength⟩ := hvalid
  have hmonths : daysInFirst (monthLengths d.year) (d.month - 1) + monthLength d.year d.month ≤
      daysInFirst (monthLengths d.year) (monthLengths d.year).length := by
    rw [monthLength, ← daysInFirst_succ]
    exact daysInFirst_le _ _
  rw [daysInFirst_monthLengths] at hmonths
  rw [yearStart_succ, toDay]
  split at hmonths
  · next hleap => rw [if_pos hleap]; omega
  · next hleap => rw [if_neg hleap]; omega

theorem year_ofDay_bounds (n : Int) :
    yearStart (ofDay n).year ≤ n + epochDay ∧ n + epochDay < yearStart ((ofDay n).year + 1) := by
  rw [ofDay_eq]
  exact yearStart_yearOfDay_le (n + epochDay)

/-! ## One date for each day -/

/-- The months that are taken off are those that fit. -/
theorem splitMonths_daysInFirst {lengths : List Nat} {months rest : Nat}
    (h : rest < lengths.getD months 0) :
    splitMonths lengths (daysInFirst lengths months + rest) = (months, rest) := by
  induction lengths generalizing months with
  | nil => exact absurd h (Nat.not_lt_zero rest)
  | cons length lengths ih =>
      rw [splitMonths]
      cases months with
      | zero =>
          rw [daysInFirst, Nat.zero_add]
          exact if_pos h
      | succ months =>
          rw [daysInFirst, Nat.add_assoc, if_neg (Nat.not_lt.mpr (Nat.le_add_right _ _)),
            Nat.add_sub_cancel_left, ih h]

theorem yearOfDay_eq {day year : Int} (hstart : yearStart year ≤ day)
    (hstop : day < yearStart (year + 1)) : yearOfDay day = year := by
  obtain ⟨hle, hlt⟩ := yearStart_yearOfDay_le day
  have hbelow : yearOfDay day < year + 1 := yearStart_lt_iff.mp (Int.lt_of_le_of_lt hle hstop)
  have habove : year < yearOfDay day + 1 := yearStart_lt_iff.mp (Int.lt_of_le_of_lt hstart hlt)
  omega

/-- A date that exists is the date of its day. -/
theorem ofDay_toDay {d : Date} (h : d.isValid = true) : ofDay d.toDay = d := by
  obtain ⟨hstart, hstop⟩ := toDay_bounds h
  obtain ⟨hmonth, -, hday, -⟩ := bounds_of_isValid h
  simp only [isValid, Bool.and_eq_true, decide_eq_true_eq] at h
  have hyear : yearOfDay (d.toDay + epochDay) = d.year := yearOfDay_eq hstart hstop
  have hnumber : dayOfYear d.toDay =
      daysInFirst (monthLengths d.year) (d.month - 1) + (d.day - 1) := by
    rw [dayOfYear, hyear, toDay]
    omega
  have hwithin : d.day - 1 < (monthLengths d.year).getD (d.month - 1) 0 :=
    Nat.lt_of_lt_of_le (Nat.sub_lt hday Nat.one_pos) h.2
  rw [ofDay_eq, hyear, hnumber, splitMonths_daysInFirst hwithin, Nat.sub_add_cancel hmonth,
    Nat.sub_add_cancel hday]

/-! ## The month before -/

/-- Days from 0000-01-01 to the first day of a month. -/
def monthStart (year : Int) (month : Nat) : Int :=
  yearStart year + daysInFirst (monthLengths year) (month - 1)

theorem toDay_eq (d : Date) : d.toDay = monthStart d.year d.month + d.day - 1 - epochDay := rfl

/-- A year starts where December ends. -/
theorem monthStart_january (year : Int) :
    monthStart year 1 = monthStart (year - 1) 12 + monthLength (year - 1) 12 := by
  have hyear := yearStart_succ (year - 1)
  have hmonths := daysInFirst_monthLengths (year - 1)
  have hdecember : daysInFirst (monthLengths (year - 1)) (monthLengths (year - 1)).length =
      daysInFirst (monthLengths (year - 1)) 11 + monthLength (year - 1) 12 :=
    daysInFirst_succ _ 11
  rw [Int.sub_add_cancel] at hyear
  rw [hdecember] at hmonths
  simp only [monthStart, Nat.sub_self, daysInFirst, Nat.reduceSub]
  split at hyear
  · next hleap => rw [if_pos hleap] at hmonths; omega
  · next hleap => rw [if_neg hleap] at hmonths; omega

/-- A month starts where the month before ends. -/
theorem monthStart_eq {d : Date} (h : 1 ≤ d.month) :
    monthStart d.year d.month = monthStart d.monthBefore.year d.monthBefore.month +
      monthLength d.monthBefore.year d.monthBefore.month := by
  obtain ⟨year, month, day⟩ := d
  obtain ⟨earlier, rfl⟩ := Nat.exists_eq_add_of_le' h
  cases earlier with
  | zero => exact monthStart_january year
  | succ earlier =>
      have hmonth : daysInFirst (monthLengths year) (earlier + 1) =
          daysInFirst (monthLengths year) earlier + monthLength year (earlier + 1) :=
        daysInFirst_succ ..
      have hbefore : monthBefore ⟨year, earlier + 2, day⟩ =
          ⟨year, earlier + 1, min day (monthLength year (earlier + 1))⟩ := by
        rw [monthBefore, if_neg (by simp)]
        rfl
      rw [hbefore]
      simp only [monthStart, Nat.add_sub_cancel, hmonth]
      omega

theorem le_monthLength (year : Int) {month : Nat} (hfirst : 1 ≤ month) (hlast : month ≤ 12) :
    28 ≤ monthLength year month := by
  have hall : ∀ length ∈ monthLengths year, 28 ≤ length := by
    rw [monthLengths]
    split <;> decide
  have hlt : month - 1 < (monthLengths year).length := by
    rw [show (monthLengths year).length = 12 from rfl]
    omega
  rw [monthLength, List.getD_eq_getElem?_getD, List.getElem?_eq_getElem hlt]
  exact hall _ (List.getElem_mem hlt)

/-- Months are counted on through the years. -/
theorem monthBefore_month {d : Date} (h : d.isValid = true) :
    (1 ≤ d.monthBefore.month ∧ d.monthBefore.month ≤ 12) ∧
      12 * d.monthBefore.year + d.monthBefore.month + 1 = 12 * d.year + d.month := by
  obtain ⟨hfirst, hlast, -, -⟩ := bounds_of_isValid h
  rw [monthBefore]
  by_cases hjanuary : d.month = 1
  · rw [if_pos hjanuary]
    simp only []
    omega
  · rw [if_neg hjanuary]
    simp only []
    omega

theorem monthBefore_day (d : Date) :
    d.monthBefore.day = min d.day (monthLength d.monthBefore.year d.monthBefore.month) := rfl

theorem isValid_monthBefore {d : Date} (h : d.isValid = true) : d.monthBefore.isValid = true := by
  obtain ⟨-, -, hday, -⟩ := bounds_of_isValid h
  obtain ⟨⟨hfirst, hlast⟩, -⟩ := monthBefore_month h
  have hlength := le_monthLength d.monthBefore.year hfirst hlast
  have hclamp := monthBefore_day d
  simp only [isValid, Bool.and_eq_true, decide_eq_true_eq]
  omega

/-- A month back is as many days as the month before has, or, where that has no such day, as many as
the number of the day. -/
theorem days_monthBefore {d : Date} (h : d.isValid = true) :
    28 ≤ d.toDay - d.monthBefore.toDay ∧ d.toDay - d.monthBefore.toDay ≤ 31 := by
  obtain ⟨hmonth, -, hday, hlate⟩ := bounds_of_isValid h
  obtain ⟨⟨hfirst, hlast⟩, -⟩ := monthBefore_month h
  have hshortest := le_monthLength d.monthBefore.year hfirst hlast
  have hlongest := monthLength_le d.monthBefore.year d.monthBefore.month
  have hclamp := monthBefore_day d
  rw [toDay_eq, toDay_eq, monthStart_eq hmonth]
  omega

end Date

end Rollup.Calendar
