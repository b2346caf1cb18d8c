import Rollup.Calendar.Instant
import Rollup.Proofs.Calendar.Date
import Rollup.Proofs.Text

/-!
# Stamps read back

The stamp of an instant to the second gives that second back, for every year
there is. A year has as many digits as it needs, but sixteen characters follow
it whatever the instant is, so it is found from the end of the text. A leap
second is written as second 60, and no other second is.
-/

namespace Rollup.Calendar.Instant

/-- An instant without its fraction of a second. A leap second stays one. -/
def wholeSecond (t : Instant) : Instant where
  day := t.day
  second := t.second
  nano := t.nano / fullSecond * fullSecond
  firstDay_le := t.firstDay_le
  day_le := t.day_le
  second_lt := t.second_lt
  nano_lt := Nat.lt_of_le_of_lt (Nat.div_mul_le_self t.nano fullSecond) t.nano_lt
  leap_at_minute h := t.leap_at_minute (Nat.le_trans h (Nat.div_mul_le_self t.nano fullSecond))

/-! ## Reading a stamp -/

/-- The number of a text of digits. -/
def number (cs : List Char) : Nat := Nat.ofDigitChars 10 cs 0

/-- The year of a text of digits, with a sign or without. -/
def readYear : List Char → Int
  | '-' :: digits => -number digits
  | '+' :: digits => number digits
  | digits => number digits

/-- The instant of a year, a month, a day, an hour, a minute and a second, in which second 60 is a
leap second. -/
def ofClock? (date : Date) (hour minute second : Nat) : Option Instant :=
  if second = 60 then of? date.toDay (hour * 3600 + minute * 60 + 59) fullSecond
  else of? date.toDay (hour * 3600 + minute * 60 + second) 0

/-- The instant of a stamp without a fraction of a second. What stands between the numbers is passed
over. -/
def ofStampSecond? (cs : List Char) : Option Instant :=
  match cs.drop (cs.length - 16) with
  | [_, m₁, m₂, _, d₁, d₂, _, h₁, h₂, _, i₁, i₂, _, s₁, s₂, _] =>
      ofClock? ⟨readYear (cs.take (cs.length - 16)), number [m₁, m₂], number [d₁, d₂]⟩
        (number [h₁, h₂]) (number [i₁, i₂]) (number [s₁, s₂])
  | _ => none

theorem readYear_writeYear (year : Int) : readYear (writeYear year) = year := by
  rw [writeYear]
  split
  · next hplain =>
      obtain ⟨c, cs, hcs⟩ := List.exists_cons_of_ne_nil (Text.padded_ne_nil 4 year.toNat)
      have hdigit : c.isDigit = true :=
        Text.isDigit_of_mem_padded (hcs ▸ List.mem_cons_self)
      have hminus : c ≠ '-' := by rintro rfl; exact absurd hdigit (by decide)
      have hplus : c ≠ '+' := by rintro rfl; exact absurd hdigit (by decide)
      have hread : readYear (c :: cs) = number (c :: cs) := by
        rw [readYear]
        · simpa using hminus
        · simpa using hplus
      rw [hcs, hread, ← hcs, number, Text.ofDigitChars_padded]
      omega
  · next hsigned =>
      split
      · show -(number (Text.padded 4 year.natAbs) : Int) = year
        rw [number, Text.ofDigitChars_padded]
        omega
      · show (number (Text.padded 4 year.natAbs) : Int) = year
        rw [number, Text.ofDigitChars_padded]
        omega

theorem of?_self (t : Instant) : of? t.day t.second t.nano = some t :=
  dif_pos ⟨t.firstDay_le, t.day_le, t.second_lt, t.nano_lt, t.leap_at_minute⟩

/-- The seconds of an instant give it back. -/
theorem ofSeconds?_self (t : Instant) : ofSeconds? t.seconds t.nano = some t := by
  have hday : t.seconds / fullDay = t.day := by
    have hsecond := t.second_lt
    rw [seconds]
    rw [fullDay] at hsecond ⊢
    omega
  have hclock : (t.seconds % fullDay).toNat = t.second := by
    have hsecond := t.second_lt
    rw [seconds]
    rw [fullDay] at hsecond ⊢
    omega
  rw [ofSeconds?, hday, hclock, of?_self]

theorem of?_eq_some {day : Int} {second nano : Nat} {t : Instant} :
    of? day second nano = some t ↔ t.day = day ∧ t.second = second ∧ t.nano = nano := by
  constructor
  · intro h
    rw [of?] at h
    split at h
    · cases h
      exact ⟨rfl, rfl, rfl⟩
    · cases h
  · rintro ⟨rfl, rfl, rfl⟩
    exact of?_self t

theorem day_of_of? {day : Int} {second nano : Nat} {t : Instant}
    (h : of? day second nano = some t) : t.day = day := (of?_eq_some.mp h).1

theorem ofSeconds?_eq_some {seconds : Int} {nano : Nat} {t : Instant} :
    ofSeconds? seconds nano = some t ↔ t.seconds = seconds ∧ t.nano = nano := by
  constructor
  · intro h
    obtain ⟨hday, hsecond, hnano⟩ := of?_eq_some.mp h
    refine ⟨?_, hnano⟩
    rw [Instant.seconds, hday, hsecond, fullDay]
    omega
  · rintro ⟨rfl, rfl⟩
    exact ofSeconds?_self t

/-- Clock and date of an instant give its whole second. -/
theorem ofClock?_clock (t : Instant) :
    ofClock? t.date (t.second / 3600) (t.second / 60 % 60)
      (t.second % 60 + t.nano / fullSecond) = some t.wholeSecond := by
  have hday : t.date.toDay = t.day := Date.toDay_ofDay t.day
  rw [ofClock?, hday, ← of?_self t.wholeSecond]
  show _ = of? t.day t.second (t.nano / fullSecond * fullSecond)
  by_cases hleap : fullSecond ≤ t.nano
  · have hsixty := t.leap_at_minute hleap
    have hone : t.nano / fullSecond = 1 :=
      Nat.div_eq_of_lt_le (by rwa [Nat.one_mul]) t.nano_lt
    have hclock : t.second / 3600 * 3600 + t.second / 60 % 60 * 60 + 59 = t.second := by omega
    rw [hone, hsixty, if_pos rfl, hclock, Nat.one_mul]
  · have hzero : t.nano / fullSecond = 0 := Nat.div_eq_of_lt (Nat.lt_of_not_le hleap)
    have hclock : t.second / 3600 * 3600 + t.second / 60 % 60 * 60 + t.second % 60 = t.second := by
      omega
    rw [hzero, Nat.add_zero, if_neg (by omega), hclock, Nat.zero_mul]

theorem ofStampSecond?_stampSecond (t : Instant) :
    ofStampSecond? t.stampSecond.toList = some t.wholeSecond := by
  have hvalid : t.date.isValid = true := Date.isValid_ofDay t.day
  obtain ⟨-, hmonth, -, hday⟩ := Date.bounds_of_isValid hvalid
  have hhour : t.second / 3600 < 100 := by
    have hsecond := t.second_lt
    rw [fullDay] at hsecond
    omega
  have hleap : t.nano / fullSecond < 2 := Nat.div_lt_of_lt_mul (Nat.mul_comm _ _ ▸ t.nano_lt)
  obtain ⟨m₁, m₂, hm⟩ := Text.exists_padded_two (n := t.date.month) (by omega)
  obtain ⟨d₁, d₂, hd⟩ := Text.exists_padded_two (n := t.date.day) (by omega)
  obtain ⟨h₁, h₂, hh⟩ := Text.exists_padded_two hhour
  obtain ⟨i₁, i₂, hi⟩ := Text.exists_padded_two (n := t.second / 60 % 60) (by omega)
  obtain ⟨s₁, s₂, hs⟩ :=
    Text.exists_padded_two (n := t.second % 60 + t.nano / fullSecond) (by omega)
  have hstamp : t.stampSecond.toList = writeYear t.date.year ++
      ['-', m₁, m₂, '-', d₁, d₂, 'T', h₁, h₂, ':', i₁, i₂, ':', s₁, s₂, 'Z'] := by
    rw [stampSecond, String.toList_ofList, writeDate, writeClock, hm, hd, hh, hi, hs]
    simp
  have hlength : t.stampSecond.toList.length - 16 = (writeYear t.date.year).length := by
    rw [hstamp, List.length_append]
    exact Nat.add_sub_cancel _ _
  unfold ofStampSecond?
  rw [hlength, hstamp, List.drop_left, List.take_left]
  show ofClock? ⟨readYear (writeYear t.date.year), number [m₁, m₂], number [d₁, d₂]⟩
    (number [h₁, h₂]) (number [i₁, i₂]) (number [s₁, s₂]) = _
  rw [← hm, ← hd, ← hh, ← hi, ← hs, readYear_writeYear]
  simp only [number, Text.ofDigitChars_padded]
  exact ofClock?_clock t

end Rollup.Calendar.Instant
