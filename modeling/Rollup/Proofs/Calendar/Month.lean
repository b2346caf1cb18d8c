import Rollup.Filter
import Rollup.Proofs.Calendar.Timestamp

/-!
# The month up to an instant

The window that an inquiry gets by default starts a month before its end. The
first 31 days there are have no month before, and for them thirty days are taken
instead. Those are counted for every end, also where they are not needed, and
they are there only from the thirty-first day on. So of the ends without a month
before, the ones on that last day have a window, and the earlier ones have none.
A leap second counts as the second behind it, which is why the one at the end of
the thirtieth day belongs to the former.

A timestamp cannot name those days: its year is four digits without a sign, and
its offset moves it by less than a day. So every end that is read has the
default window.
-/

namespace Rollup.Calendar

namespace Instant

theorem exists_of?_iff {day : Int} {second nano : Nat} :
    (∃ t, of? day second nano = some t) ↔
      firstDay ≤ day ∧ day ≤ lastDay ∧ second < fullDay ∧ nano < 2 * fullSecond ∧
        (fullSecond ≤ nano → second % 60 = 59) := by
  rw [of?]
  split
  · next h => exact iff_of_true ⟨_, rfl⟩ h
  · next h =>
      refine iff_of_false ?_ h
      rintro ⟨_, ⟨⟩⟩

/-- Going back stays among the instants there are if the first of them is that far off. A leap
second is counted as the second behind it, which may lie on the next day but not behind the last. -/
theorem exists_daysBefore?_iff {t : Instant} {days : Nat} (hdays : 0 < days) :
    (∃ s, t.daysBefore? days = some s) ↔
      (firstDay + days) * fullDay ≤ t.seconds + (t.nano / fullSecond : Nat) := by
  have hday := t.day_le
  have hsecond := t.second_lt
  have hnano := t.nano_lt
  have hleap := t.leap_at_minute
  rw [daysBefore?, seconds]
  by_cases hplain : t.nano < fullSecond
  · rw [if_pos hplain, exists_of?_iff]
    simp only [firstDay, lastDay, fullDay, fullSecond] at *
    omega
  · rw [if_neg hplain, ofSeconds?, exists_of?_iff]
    simp only [firstDay, lastDay, fullDay, fullSecond] at *
    omega

theorem exists_daysBefore? {t : Instant} {days : Nat} (hdays : 0 < days)
    (h : firstDay + days ≤ t.day) : ∃ s, t.daysBefore? days = some s := by
  rw [exists_daysBefore?_iff hdays, seconds, fullDay, fullSecond]
  omega

theorem before_of_day_lt {s t : Instant} (h : s.day < t.day) : s.before t = true := by
  rw [before, decide_eq_true h, Bool.true_or]

/-- The same time of day in the month before, on the same day or on the last of a shorter month. -/
structure MonthEarlier (s t : Instant) : Prop where
  month : 12 * s.date.year + s.date.month + 1 = 12 * t.date.year + t.date.month
  day : s.date.day = min t.date.day (monthLength s.date.year s.date.month)
  second : s.second = t.second
  nano : s.nano = t.nano
  days : 28 ≤ t.day - s.day ∧ t.day - s.day ≤ 31

theorem days_monthBefore (t : Instant) :
    28 ≤ t.day - t.date.monthBefore.toDay ∧ t.day - t.date.monthBefore.toDay ≤ 31 := by
  have hdays := Date.days_monthBefore (Date.isValid_ofDay t.day)
  rwa [Date.toDay_ofDay] at hdays

theorem exists_monthBefore? {t : Instant} (h : firstDay + 31 ≤ t.day) :
    ∃ s, t.monthBefore? = some s := by
  have hdays := days_monthBefore t
  have hlast := t.day_le
  exact exists_of?_iff.mpr ⟨by omega, by omega, t.second_lt, t.nano_lt, t.leap_at_minute⟩

/-- The first days are those of a January, and December is as long. -/
theorem toDay_monthBefore_lt_firstDay :
    ∀ n < 31, (Date.ofDay (firstDay + (n : Nat))).monthBefore.toDay < firstDay := by
  decide +kernel

/-- The first 31 days have no month before. -/
theorem monthBefore?_eq_none_iff {t : Instant} :
    t.monthBefore? = none ↔ t.day < firstDay + 31 := by
  constructor
  · intro hnone
    by_contra hday
    obtain ⟨s, hs⟩ := exists_monthBefore? (Int.not_lt.mp hday)
    cases hnone.symm.trans hs
  · intro hday
    have hfirst := t.firstDay_le
    -- The day is one of the first 31, and the month before each of them is out of range.
    obtain ⟨n, hn⟩ := Int.eq_ofNat_of_zero_le (show 0 ≤ t.day - firstDay by omega)
    have hbefore := toDay_monthBefore_lt_firstDay n (by omega)
    rw [show firstDay + (n : Int) = t.day by omega] at hbefore
    refine Option.eq_none_iff_forall_ne_some.mpr fun s hs => ?_
    have hsday := s.firstDay_le
    rw [day_of_of? hs] at hsday
    exact Int.not_le.mpr hbefore hsday

theorem monthEarlier_of_monthBefore? {s t : Instant} (h : t.monthBefore? = some s) :
    s.MonthEarlier t := by
  have hvalid : t.date.isValid = true := Date.isValid_ofDay t.day
  obtain ⟨hday, hsecond, hnano⟩ := of?_eq_some.mp h
  have hdate : s.date = t.date.monthBefore := by
    rw [date, hday, Date.ofDay_toDay (Date.isValid_monthBefore hvalid)]
  refine ⟨?_, ?_, hsecond, hnano, ?_⟩
  · rw [hdate]
    exact (Date.monthBefore_month hvalid).2
  · rw [hdate]
    exact Date.monthBefore_day t.date
  · rw [hday]
    exact days_monthBefore t

theorem MonthEarlier.before {s t : Instant} (h : s.MonthEarlier t) : s.before t = true := by
  have hdays := h.days
  exact before_of_day_lt (by omega)

/-- Two days back is before, even from a leap second at the end of its day. -/
theorem before_of_daysBefore? {s t : Instant} {days : Nat} (hdays : 1 < days)
    (h : t.daysBefore? days = some s) : s.before t = true := by
  have hsecond := t.second_lt
  refine before_of_day_lt ?_
  rw [daysBefore?] at h
  split at h
  · rw [day_of_of? h]
    omega
  · rw [day_of_of? h, seconds]
    rw [fullDay] at hsecond ⊢
    omega

end Instant

end Rollup.Calendar

namespace Rollup.Window

open Rollup.Calendar

theorem exists_monthUpTo?_iff {stop : Instant} :
    (∃ w, monthUpTo? stop = some w) ↔ ∃ fallback, stop.daysBefore? 30 = some fallback := by
  simp only [monthUpTo?, Option.map_eq_some_iff]
  constructor
  · rintro ⟨_, fallback, hfallback, -⟩
    exact ⟨fallback, hfallback⟩
  · rintro ⟨fallback, hfallback⟩
    exact ⟨_, fallback, hfallback, rfl⟩

theorem exists_monthUpTo? {stop : Instant} (h : firstDay + 30 ≤ stop.day) :
    ∃ w, monthUpTo? stop = some w :=
  exists_monthUpTo?_iff.mpr (Instant.exists_daysBefore? (by decide) h)

/-- Thirty days on from the first instant there is a window, and no earlier. -/
theorem exists_monthUpTo?_iff_thirty_days {stop : Instant} :
    (∃ w, monthUpTo? stop = some w) ↔
      (firstDay + 30) * fullDay ≤ stop.seconds + (stop.nano / fullSecond : Nat) :=
  exists_monthUpTo?_iff.trans (Instant.exists_daysBefore?_iff (by decide))

theorem monthUpTo?_eq_none_iff {stop : Instant} :
    monthUpTo? stop = none ↔
      stop.seconds + (stop.nano / fullSecond : Nat) < (firstDay + 30) * fullDay := by
  rw [← Int.not_le, ← exists_monthUpTo?_iff_thirty_days, not_exists,
    Option.eq_none_iff_forall_ne_some]

/-- A window starts a month before, or thirty days before where there is no month. Where there is
one, the thirty days are there as well, so it does no harm that they are always counted. -/
theorem monthUpTo?_eq_some_iff {start stop : Instant} :
    monthUpTo? stop = some ⟨start, stop⟩ ↔
      stop.monthBefore? = some start ∨
        stop.monthBefore? = none ∧ stop.daysBefore? 30 = some start := by
  cases hmonth : stop.monthBefore? with
  | none => simp [monthUpTo?, hmonth]
  | some month =>
      have hday : firstDay + 31 ≤ stop.day := by
        rw [← Int.not_lt, ← Instant.monthBefore?_eq_none_iff, hmonth]
        exact Option.some_ne_none month
      have hthirty : firstDay + (30 : Nat) ≤ stop.day := by omega
      obtain ⟨fallback, hfallback⟩ := Instant.exists_daysBefore? (by decide) hthirty
      simp [monthUpTo?, hmonth, hfallback]

/-- From the thirty-second day on there is a month before. -/
theorem exists_monthEarlier {stop : Instant} (h : firstDay + 31 ≤ stop.day) :
    ∃ start, monthUpTo? stop = some ⟨start, stop⟩ ∧ start.MonthEarlier stop := by
  obtain ⟨start, hstart⟩ := Instant.exists_monthBefore? h
  exact ⟨start, monthUpTo?_eq_some_iff.mpr (Or.inl hstart),
    Instant.monthEarlier_of_monthBefore? hstart⟩

theorem stop_of_monthUpTo? {stop : Instant} {w : Window} (h : monthUpTo? stop = some w) :
    w.stop = stop := by
  obtain ⟨fallback, -, rfl⟩ := Option.map_eq_some_iff.mp h
  rfl

/-- The default window is not empty. -/
theorem before_of_monthUpTo? {stop : Instant} {w : Window} (h : monthUpTo? stop = some w) :
    w.start.before w.stop = true := by
  obtain ⟨fallback, hfallback, rfl⟩ := Option.map_eq_some_iff.mp h
  cases hmonth : stop.monthBefore? with
  | none => exact Instant.before_of_daysBefore? (by decide) hfallback
  | some start => exact (Instant.monthEarlier_of_monthBefore? hmonth).before

/-- An instant has a default window, which is not empty, if and only if it lies thirty days or more
behind the first instant. The first 31 days have no month before. So for all but the last of them
the thirty days that are meant to stand in for the month are missing too. -/
theorem exists_window_iff_thirty_days (stop : Instant) :
    ((∃ start, monthUpTo? stop = some ⟨start, stop⟩ ∧ start.before stop = true) ↔
      (firstDay + 30) * fullDay ≤ stop.seconds + (stop.nano / fullSecond : Nat)) ∧
    (monthUpTo? stop = none ↔
      stop.seconds + (stop.nano / fullSecond : Nat) < (firstDay + 30) * fullDay) ∧
    (stop.monthBefore? = none ↔ stop.day < firstDay + 31) ∧
    ∀ start, monthUpTo? stop = some ⟨start, stop⟩ ↔
      stop.monthBefore? = some start ∨
        stop.monthBefore? = none ∧ stop.daysBefore? 30 = some start := by
  refine ⟨⟨?_, ?_⟩, monthUpTo?_eq_none_iff, Instant.monthBefore?_eq_none_iff,
    fun _ => monthUpTo?_eq_some_iff⟩
  · rintro ⟨start, hsome, -⟩
    exact exists_monthUpTo?_iff_thirty_days.mp ⟨_, hsome⟩
  · intro hthirty
    obtain ⟨⟨start, last⟩, hsome⟩ := exists_monthUpTo?_iff_thirty_days.mpr hthirty
    obtain rfl : last = stop := stop_of_monthUpTo? hsome
    exact ⟨start, hsome, before_of_monthUpTo? hsome⟩

/-- Noon in the middle of the first January there is. -/
def midJanuary : Instant := (Instant.of? (firstDay + 14) 43200 0).get (by decide)

/-- The first instant there is comes before the middle of its month, which has no default window. -/
theorem monthUpTo?_fails_midJanuary :
    midJanuary.date = ⟨-262143, 1, 15⟩ ∧
      (∃ start : Instant, start.date = ⟨-262143, 1, 1⟩ ∧ start.before midJanuary = true) ∧
      midJanuary.monthBefore? = none ∧ monthUpTo? midJanuary = none := by
  refine ⟨by decide +kernel, ⟨(Instant.of? firstDay 0 0).get (by decide), ?_⟩, ?_, ?_⟩
  · decide +kernel
  · decide +kernel
  · decide +kernel

end Rollup.Window
