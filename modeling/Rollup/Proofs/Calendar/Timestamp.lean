import Rollup.Proofs.Calendar.TimestampText

/-!
# Stamps as timestamps

A stamp is a timestamp that names its own instant, as long as its year has four
digits and no sign: its numbers are padded to the width of their fields, the
fraction of a second has as many digits as it needs, and second 60 is a leap
second on both sides. The stamp of any other year starts with a sign, and no
timestamp does.

A timestamp has such a year itself, but it may lie up to a day away in UTC. So
the instant of a timestamp lies at most a year outside the years whose stamps
are timestamps.
-/

namespace Rollup.Calendar

/-- The years that are written with four digits and no sign. -/
def Instant.InPlainYears (t : Instant) : Prop := 0 ≤ t.date.year ∧ t.date.year ≤ 9999

instance (t : Instant) : Decidable t.InPlainYears := inferInstanceAs (Decidable (_ ∧ _))

namespace Timestamp

/-! ## Stamps -/

theorem isFraction_padded {width n : Nat} (hwidth : 0 < width) (h : n < Nat.pow 10 width) :
    IsFraction ('.' :: Text.padded width n) (n * fullSecond / Nat.pow 10 width) := by
  have hfraction : IsFraction ('.' :: Text.padded width n) _ :=
    .some (Text.padded_ne_nil width n) fun _ => Text.isDigit_of_mem_padded
  rwa [Text.ofDigitChars_padded, Text.length_padded hwidth h] at hfraction

/-- The fewest digits that lose nothing are the fraction. -/
theorem isFraction_writeFraction (nano : Nat) :
    IsFraction (Instant.writeFraction nano) (nano % fullSecond) := by
  have hlt : nano % fullSecond < fullSecond := Nat.mod_lt _ (by decide)
  rw [Instant.writeFraction]
  generalize nano % fullSecond = fraction at hlt ⊢
  rw [fullSecond] at hlt
  have hdigits {width n : Nat} (hwidth : 0 < width) (hn : n < Nat.pow 10 width)
      (hvalue : n * fullSecond / Nat.pow 10 width = fraction) :
      IsFraction ('.' :: Text.padded width n) fraction :=
    hvalue ▸ isFraction_padded hwidth hn
  split
  · next hzero => rw [hzero]; exact .none
  split
  · exact hdigits (by decide) (by simp; omega) (by simp [fullSecond]; omega)
  split
  · exact hdigits (by decide) (by simp; omega) (by simp [fullSecond]; omega)
  · exact hdigits (by decide) (by simp; omega) (by simp [fullSecond])

/-- The fields of a stamp. -/
theorem toList_stamp (t : Instant) :
    t.stamp.toList = Instant.writeYear t.date.year ++ '-' :: (Text.padded 2 t.date.month ++ '-' ::
      (Text.padded 2 t.date.day ++ 'T' :: (Text.padded 2 (t.second / 3600) ++ ':' ::
        (Text.padded 2 (t.second / 60 % 60) ++ ':' ::
          (Text.padded 2 (t.second % 60 + t.nano / fullSecond) ++
            (Instant.writeFraction t.nano ++ ['Z'])))))) := by
  rw [Instant.stamp, String.toList_ofList, Instant.writeDate, Instant.writeClock]
  simp

/-- What a stamp says. -/
def saidByStamp (t : Instant) : Said where
  year := t.date.year.toNat
  month := t.date.month
  day := t.date.day
  hour := t.second / 3600
  minute := t.second / 60 % 60
  second := t.second % 60 + t.nano / fullSecond
  nano := t.nano % fullSecond
  east := 0

theorem date_saidByStamp {t : Instant} (h : t.InPlainYears) : (saidByStamp t).date = t.date := by
  rw [Said.date, saidByStamp, Int.toNat_of_nonneg h.1]

theorem nano_div_lt (t : Instant) : t.nano / fullSecond < 2 :=
  Nat.div_lt_of_lt_mul (Nat.mul_comm _ _ ▸ t.nano_lt)

theorem valid_saidByStamp {t : Instant} (h : t.InPlainYears) : (saidByStamp t).Valid := by
  have hsecond := t.second_lt
  have hleap := nano_div_lt t
  rw [fullDay] at hsecond
  have hhour : t.second / 3600 ≤ 23 := by omega
  have hminute : t.second / 60 % 60 ≤ 59 := by omega
  have hsixty : t.second % 60 + t.nano / fullSecond ≤ 60 := by omega
  refine ⟨?_, hhour, hminute, hsixty, Nat.zero_lt_succ _⟩
  rw [date_saidByStamp h]
  exact Date.isValid_ofDay t.day

theorem written_saidByStamp {t : Instant} (h : t.InPlainYears) :
    Written t.stamp.toList (saidByStamp t) := by
  obtain ⟨-, hmonth, -, hday⟩ := Date.bounds_of_isValid (Date.isValid_ofDay t.day)
  have hvalid := valid_saidByStamp h
  have hyear : t.date.year.toNat ≤ 9999 := Int.toNat_le.mpr h.2
  have htwo {n : Nat} (hn : n < 100) : Digits 2 (Text.padded 2 n) n := digits_padded (by decide) hn
  rw [toList_stamp, Instant.writeYear, if_pos (show 0 ≤ t.date.year ∧ t.date.year ≤ 9999 from h)]
  exact .parts (digits_padded (by decide) (Nat.lt_succ_of_le hyear))
    (htwo (Nat.lt_of_le_of_lt hmonth (by decide))) (htwo (Nat.lt_of_le_of_lt hday (by decide)))
    (by decide) (htwo (Nat.lt_of_le_of_lt hvalid.hour_le (by decide)))
    (htwo (Nat.lt_of_le_of_lt hvalid.minute_le (by decide)))
    (htwo (Nat.lt_of_le_of_lt hvalid.second_le (by decide))) (isFraction_writeFraction t.nano)
    (.utc (Or.inl rfl))

/-- The clock of a stamp gives the second of the day and the nanoseconds back. -/
theorem clock_stamp (t : Instant) :
    t.second / 3600 * 3600 + t.second / 60 % 60 * 60 +
        min (t.second % 60 + t.nano / fullSecond) 59 = t.second ∧
      t.nano = if t.second % 60 + t.nano / fullSecond = 60 then t.nano % fullSecond + fullSecond
        else t.nano % fullSecond := by
  have hnano := t.nano_lt
  by_cases hleap : fullSecond ≤ t.nano
  · have hminute := t.leap_at_minute hleap
    have hone : t.nano / fullSecond = 1 := Nat.div_eq_of_lt_le (by rwa [Nat.one_mul]) hnano
    have hrest := Nat.mod_add_div t.nano fullSecond
    rw [hone] at hrest
    rw [hone, hminute, if_pos rfl]
    omega
  · have hzero : t.nano / fullSecond = 0 := Nat.div_eq_of_lt (Nat.lt_of_not_le hleap)
    have hrest : t.nano % fullSecond = t.nano := Nat.mod_eq_of_lt (Nat.lt_of_not_le hleap)
    rw [hzero, Nat.add_zero, if_neg (by omega), hrest]
    omega

theorem means_saidByStamp {t : Instant} (h : t.InPlainYears) : (saidByStamp t).Means t := by
  obtain ⟨hclock, hnano⟩ := clock_stamp t
  have hday : (saidByStamp t).date.toDay = t.day := by
    rw [date_saidByStamp h]
    exact Date.toDay_ofDay t.day
  have hsecond : (saidByStamp t).clock = t.second := hclock
  have hutc : (saidByStamp t).east = 0 := rfl
  refine ⟨?_, hnano⟩
  rw [hday, hsecond, hutc, Int.zero_mul, Int.sub_zero]
  rfl

/-- The stamp of a plain year is a timestamp of its instant. -/
theorem parse_stamp {t : Instant} (h : t.InPlainYears) : parse t.stamp.toList = .ok t :=
  parse_eq_ok.mpr ⟨_, written_saidByStamp h, valid_saidByStamp h, means_saidByStamp h⟩

theorem not_tooShort_stamp (t : Instant) : ¬ Text.byteLength t.stamp.toList < 19 := by
  have hyear : 4 ≤ (Instant.writeYear t.date.year).length := by
    rw [Instant.writeYear]
    split
    · exact Text.le_length_padded 4 _
    · exact Nat.le_succ_of_le (Text.le_length_padded 4 _)
  have htwo := Text.le_length_padded 2
  refine Nat.not_lt.mpr (Nat.le_trans ?_ (length_le_byteLength _))
  rw [toList_stamp]
  simp only [List.length_append, List.length_cons]
  have hmonth := htwo t.date.month
  have hday := htwo t.date.day
  have hhour := htwo (t.second / 3600)
  have hminute := htwo (t.second / 60 % 60)
  have hsecond := htwo (t.second % 60 + t.nano / fullSecond)
  omega

/-- A year outside the plain ones has a sign, and no timestamp starts with one. -/
theorem parse_stamp_eq_error {t : Instant} (h : ¬ t.InPlainYears) :
    parse t.stamp.toList = .error .invalid := by
  have hyear : ¬ (0 ≤ t.date.year ∧ t.date.year ≤ 9999) := h
  have hsign : (if t.date.year < 0 then '-' else '+').isDigit = false := by
    split <;> rfl
  rw [parse, if_neg (not_tooShort_stamp t), toList_stamp, Instant.writeYear, if_neg hyear]
  refine Except.bind_eq_error.mpr (Or.inl ?_)
  rw [List.cons_append, number, hsign]
  rfl

/-! ## What a timestamp can name -/

theorem Written.year_le {cs : List Char} {s : Said} (h : Written cs s) : s.year ≤ 9999 := by
  obtain ⟨hyear⟩ := h
  exact Nat.le_of_lt_succ hyear.lt

/-- A timestamp is at most a day outside the years from 0 to 9999. -/
theorem day_bounds_of_parse {cs : List Char} {t : Instant} (h : parse cs = .ok t) :
    -epochDay - 1 ≤ t.day ∧ t.day ≤ yearStart 10000 - epochDay := by
  obtain ⟨s, hwritten, hvalid, hmeans⟩ := parse_eq_ok.mp h
  obtain ⟨hstart, hstop⟩ := Date.toDay_bounds hvalid.date
  have hyear : (s.date.year : Int) ≤ 9999 := Int.ofNat_le.mpr hwritten.year_le
  have hzero : yearStart 0 ≤ yearStart s.date.year :=
    Date.yearStart_le_iff.mpr (Int.natCast_nonneg s.year)
  have hnext : yearStart (s.date.year + 1) ≤ yearStart 10000 :=
    Date.yearStart_le_iff.mpr (Int.add_le_add_right hyear 1)
  have hclock : s.clock < fullDay := by
    have hhour := hvalid.hour_le
    have hminute := hvalid.minute_le
    rw [Said.clock, fullDay]
    omega
  have hseconds := hmeans.seconds_eq
  have hsecond := t.second_lt
  have heast := hvalid.east_lt
  rw [show yearStart 0 = 0 from rfl] at hzero
  rw [Instant.seconds] at hseconds
  rw [fullDay] at hclock hseconds hsecond
  omega

/-- The instant of a timestamp is at most a year outside the plain ones. -/
theorem year_bounds_of_parse {cs : List Char} {t : Instant} (h : parse cs = .ok t) :
    -1 ≤ t.date.year ∧ t.date.year ≤ 10000 := by
  obtain ⟨hfirst, hlast⟩ := day_bounds_of_parse h
  obtain ⟨hstart, hstop⟩ := Date.year_ofDay_bounds t.day
  constructor
  · have hbelow : yearStart (-1) < yearStart (t.date.year + 1) :=
      Int.lt_of_lt_of_le (show yearStart (-1) < -1 by decide) (by rw [Instant.date]; omega)
    have := Date.yearStart_lt_iff.mp hbelow
    omega
  · exact Date.yearStart_le_iff.mp (by rw [Instant.date]; omega)

end Timestamp

end Rollup.Calendar
