import Rollup.Calendar.Timestamp
import Rollup.Proofs.Calendar.Stamp
import Rollup.Proofs.Except

/-!
# The texts that are timestamps

A timestamp says a date, a clock, a fraction of a second and an offset. `Written`
is the form of the text, one part after the other, and says nothing about
whether there is such a date or such a clock. `Valid` is that condition, and
`Means` the instant: the clock less the offset, where second 60 stands for the
leap second behind second 59. Reading finds exactly these instants.

Each part of the reader takes its part of the text off the front, so each is one
equivalence: what is read is in front of what is left. Only the fraction looks
at what is behind it, since it takes all the digits there are; an offset never
starts with one.
-/

namespace Rollup.Calendar.Timestamp

/-! ## Numbers -/

/-- Digits of a fixed width spell a number. -/
structure Digits (width : Nat) (cs : List Char) (n : Nat) : Prop where
  length_eq : cs.length = width
  decimal : ∀ c ∈ cs, c.isDigit = true
  value_eq : Nat.ofDigitChars 10 cs 0 = n

theorem number_append {digits : List Char} (hdigits : ∀ c ∈ digits, c.isDigit = true) (acc : Nat)
    (rest : List Char) :
    number digits.length acc (digits ++ rest) = .ok (Nat.ofDigitChars 10 digits acc, rest) := by
  induction digits generalizing acc with
  | nil => rfl
  | cons c digits ih =>
      rw [List.length_cons, List.cons_append, number, if_pos (hdigits c List.mem_cons_self),
        ih fun d hd => hdigits d (List.mem_cons_of_mem _ hd), Nat.mul_comm]
      rfl

theorem exists_of_number {width acc n : Nat} {cs rest : List Char}
    (h : number width acc cs = .ok (n, rest)) :
    ∃ digits, digits.length = width ∧ (∀ c ∈ digits, c.isDigit = true) ∧
      Nat.ofDigitChars 10 digits acc = n ∧ cs = digits ++ rest := by
  induction width generalizing acc cs with
  | zero =>
      cases h
      exact ⟨[], rfl, fun c hc => absurd hc List.not_mem_nil, rfl, rfl⟩
  | succ width ih =>
      cases cs with
      | nil => cases h
      | cons c cs =>
          rw [number] at h
          split at h
          · next hdigit =>
              obtain ⟨digits, hlength, hdecimal, hvalue, rfl⟩ := ih h
              refine ⟨c :: digits, congrArg (· + 1) hlength,
                List.forall_mem_cons.mpr ⟨hdigit, hdecimal⟩, ?_, rfl⟩
              rw [Nat.ofDigitChars_cons, Nat.mul_comm, hvalue]
          · cases h

theorem number_eq_ok {width n : Nat} {cs rest : List Char} :
    number width 0 cs = .ok (n, rest) ↔ ∃ digits, Digits width digits n ∧ cs = digits ++ rest := by
  constructor
  · intro h
    obtain ⟨digits, hlength, hdecimal, hvalue, hcs⟩ := exists_of_number h
    exact ⟨digits, ⟨hlength, hdecimal, hvalue⟩, hcs⟩
  · rintro ⟨digits, ⟨rfl, hdecimal, rfl⟩, rfl⟩
    exact number_append hdecimal 0 rest

theorem ofDigitChars_lt {digits : List Char} (hdecimal : ∀ c ∈ digits, c.isDigit = true) :
    Nat.ofDigitChars 10 digits 0 < Nat.pow 10 digits.length := by
  induction digits with
  | nil => exact Nat.one_pos
  | cons c digits ih =>
      have hrest := ih fun d hd => hdecimal d (List.mem_cons_of_mem _ hd)
      have hnine : c.toNat ≤ 57 :=
        of_decide_eq_true (Bool.and_eq_true_iff.mp (hdecimal c List.mem_cons_self)).2
      have hdigit : c.toNat - '0'.toNat ≤ 9 := by
        rw [show '0'.toNat = 48 from rfl]
        omega
      rw [Nat.ofDigitChars_cons, Nat.ofDigitChars_eq_ofDigitChars_zero, Nat.mul_zero, Nat.zero_add]
      calc Nat.pow 10 digits.length * (c.toNat - '0'.toNat) + Nat.ofDigitChars 10 digits 0
          < Nat.pow 10 digits.length * (c.toNat - '0'.toNat) + Nat.pow 10 digits.length :=
            Nat.add_lt_add_left hrest _
        _ = Nat.pow 10 digits.length * (c.toNat - '0'.toNat + 1) := (Nat.mul_succ _ _).symm
        _ ≤ Nat.pow 10 digits.length * 10 := Nat.mul_le_mul_left _ (Nat.succ_le_succ hdigit)
        _ = Nat.pow 10 (c :: digits).length := rfl

theorem Digits.lt {width n : Nat} {cs : List Char} (h : Digits width cs n) :
    n < Nat.pow 10 width := by
  obtain ⟨rfl, hdecimal, rfl⟩ := h
  exact ofDigitChars_lt hdecimal

theorem digits_padded {width n : Nat} (hwidth : 0 < width) (h : n < Nat.pow 10 width) :
    Digits width (Text.padded width n) n :=
  ⟨Text.length_padded hwidth h, fun _ => Text.isDigit_of_mem_padded,
    Text.ofDigitChars_padded width n⟩

/-! ## The other parts -/

theorem expect_eq_ok {allowed cs rest : List Char} :
    expect allowed cs = .ok rest ↔ ∃ c ∈ allowed, cs = c :: rest := by
  cases cs with
  | nil => simp [expect]
  | cons c cs =>
      rw [expect]
      split
      · next hc => simp [hc]
      · next hc => simp [hc]

/-- A fraction of a second in nanoseconds: none, or that of some digits with a point in front. What is
less than a nanosecond is left off. -/
inductive IsFraction : List Char → Nat → Prop
  | none : IsFraction [] 0
  | some {digits : List Char} (nonempty : digits ≠ [])
      (decimal : ∀ c ∈ digits, c.isDigit = true) :
      IsFraction ('.' :: digits)
        (Nat.ofDigitChars 10 digits 0 * fullSecond / Nat.pow 10 digits.length)

theorem IsFraction.unique {cs : List Char} {nano other : Nat} (h : IsFraction cs nano)
    (hother : IsFraction cs other) : nano = other := by
  cases h with
  | none => cases hother; rfl
  | some => cases hother; rfl

/-- An offset in minutes to the east: none, or hours and minutes in either direction. A minus is the
hyphen or the sign. -/
inductive IsOffset : List Char → Int → Prop
  | utc {letter : Char} (letter_eq : letter = 'Z' ∨ letter = 'z') : IsOffset [letter] 0
  | zone {sign : Char} {hourText minuteText : List Char} {hours minutes : Nat}
      (sign_eq : sign = '+' ∨ sign = '-' ∨ sign = '−') (hours_eq : Digits 2 hourText hours)
      (minutes_eq : Digits 2 minuteText minutes) (minutes_le : minutes ≤ 59) :
      IsOffset (sign :: (hourText ++ ':' :: minuteText))
        (if sign = '+' then hours * 60 + minutes else -(hours * 60 + minutes))

/-- The first nine digits, filled up with zeros, are the whole nanoseconds of all of them. -/
theorem kept_digits {digits : List Char} (hdecimal : ∀ c ∈ digits, c.isDigit = true) :
    Nat.ofDigitChars 10 (digits.take 9) 0 * Nat.pow 10 (9 - (digits.take 9).length) =
      Nat.ofDigitChars 10 digits 0 * fullSecond / Nat.pow 10 digits.length := by
  have hnine : fullSecond = 10 ^ 9 := rfl
  simp only [hnine, Nat.pow_eq, List.length_take]
  by_cases hlong : digits.length ≤ 9
  · have hsplit : 10 ^ 9 = 10 ^ (9 - digits.length) * 10 ^ digits.length := by
      rw [← Nat.pow_add, Nat.sub_add_cancel hlong]
    rw [List.take_of_length_le hlong, Nat.min_eq_right hlong, hsplit, ← Nat.mul_assoc,
      Nat.mul_div_cancel _ (Nat.pow_pos (by decide))]
  · have hrest : Nat.ofDigitChars 10 (digits.drop 9) 0 < 10 ^ (digits.length - 9) := by
      have hlt := @ofDigitChars_lt (digits.drop 9) fun c hc =>
        hdecimal c (List.mem_of_mem_drop hc)
      rwa [List.length_drop, Nat.pow_eq] at hlt
    have hvalue : Nat.ofDigitChars 10 digits 0 =
        10 ^ (digits.length - 9) * Nat.ofDigitChars 10 (digits.take 9) 0 +
          Nat.ofDigitChars 10 (digits.drop 9) 0 := by
      conv_lhs => rw [← List.take_append_drop 9 digits]
      rw [Nat.ofDigitChars_append, Nat.ofDigitChars_eq_ofDigitChars_zero, List.length_drop]
    have hsplit : 10 ^ digits.length = 10 ^ (digits.length - 9) * 10 ^ 9 := by
      rw [← Nat.pow_add, Nat.sub_add_cancel (by omega)]
    rw [Nat.min_eq_left (by omega), Nat.sub_self, Nat.pow_zero, Nat.mul_one, hsplit,
      Nat.mul_div_mul_right _ _ (by decide), hvalue, Nat.mul_add_div (Nat.pow_pos (by decide)),
      Nat.div_eq_of_lt hrest, Nat.add_zero]

theorem exists_of_fraction {cs rest : List Char} {nano : Nat}
    (h : fraction cs = .ok (nano, rest)) : ∃ text, IsFraction text nano ∧ cs = text ++ rest := by
  rw [fraction.eq_def] at h
  split at h
  · next behind =>
      simp only [] at h
      split at h
      · cases h
      · next hnonempty =>
          cases h
          have hdecimal : ∀ c ∈ behind.takeWhile Char.isDigit, c.isDigit = true :=
            fun c hc => List.mem_takeWhile_imp hc
          refine ⟨'.' :: behind.takeWhile Char.isDigit, ?_, ?_⟩
          · rw [kept_digits hdecimal]
            exact .some hnonempty hdecimal
          · rw [List.cons_append, List.takeWhile_append_dropWhile]
  · cases h
    exact ⟨[], .none, rfl⟩

theorem fraction_append {text rest : List Char} {nano : Nat} {c : Char}
    (h : IsFraction text nano) (hdigit : c.isDigit = false) (hpoint : c ≠ '.') :
    fraction (text ++ c :: rest) = .ok (nano, c :: rest) := by
  cases h with
  | none =>
      rw [List.nil_append, fraction]
      rintro cs ⟨⟩
      exact hpoint rfl
  | some hnonempty hdecimal =>
      have htake := Text.takeWhile_append_cons_of_neg hdigit
      have hdrop := Text.dropWhile_append_cons_of_neg hdigit
      rw [List.cons_append, fraction]
      simp only [htake, hdrop, List.takeWhile_eq_self_iff.mpr hdecimal,
        List.dropWhile_eq_nil_iff.mpr hdecimal, kept_digits hdecimal, List.nil_append]
      exact if_neg hnonempty

theorem offsetPair_eq_ok {cs rest : List Char} {n : Nat} :
    offsetPair cs = .ok (n, rest) ↔ ∃ digits, Digits 2 digits n ∧ cs = digits ++ rest := by
  rw [← number_eq_ok, offsetPair.eq_def]
  split
  · simp [number]
  · next c =>
      simp only [reduceCtorEq, false_iff]
      rw [number]
      split <;> simp [number]
  · rfl

theorem exists_of_offset {cs rest : List Char} {east : Int} (h : offset cs = .ok (east, rest)) :
    ∃ text, IsOffset text east ∧ cs = text ++ rest := by
  cases cs with
  | nil => cases h
  | cons sign cs =>
      rw [offset] at h
      split at h
      · next hletter =>
          cases h
          exact ⟨[sign], .utc hletter, rfl⟩
      split at h
      · next hsign =>
          obtain ⟨⟨hours, behind⟩, hhours, h⟩ := Except.bind_eq_ok.mp h
          obtain ⟨later, hcolon, h⟩ := Except.bind_eq_ok.mp h
          obtain ⟨⟨minutes, last⟩, hminutes, h⟩ := Except.bind_eq_ok.mp h
          change (if _ then _ else _) = Except.ok _ at h
          split at h
          · cases h
          · next hle =>
              cases h
              obtain ⟨hourText, hhourText, rfl⟩ := offsetPair_eq_ok.mp hhours
              obtain ⟨colon, hmem, rfl⟩ := expect_eq_ok.mp hcolon
              obtain ⟨minuteText, hminuteText, rfl⟩ := offsetPair_eq_ok.mp hminutes
              cases List.mem_singleton.mp hmem
              exact ⟨_, .zone hsign hhourText hminuteText (Nat.le_of_not_lt hle), by simp⟩
      · cases h

theorem offset_append {text : List Char} {east : Int} (h : IsOffset text east)
    (rest : List Char) : offset (text ++ rest) = .ok (east, rest) := by
  cases h with
  | utc hletter => exact if_pos hletter
  | @zone sign _ _ _ _ hsign hhours hminutes hle =>
      have hletter : ¬ (sign = 'Z' ∨ sign = 'z') := by
        rcases hsign with rfl | rfl | rfl
        · decide
        · decide
        · decide
      rw [List.cons_append, List.append_assoc, List.cons_append, offset, if_neg hletter,
        if_pos hsign]
      refine Except.bind_eq_ok.mpr ⟨_, offsetPair_eq_ok.mpr ⟨_, hhours, rfl⟩, ?_⟩
      refine Except.bind_eq_ok.mpr ⟨_, expect_eq_ok.mpr ⟨_, List.mem_singleton_self _, rfl⟩, ?_⟩
      refine Except.bind_eq_ok.mpr ⟨_, offsetPair_eq_ok.mpr ⟨_, hminutes, rfl⟩, ?_⟩
      exact if_neg (Nat.not_lt.mpr hle)

/-- An offset does not start like a fraction or the rest of one. -/
theorem IsOffset.exists_cons {text : List Char} {east : Int} (h : IsOffset text east) :
    ∃ c rest, text = c :: rest ∧ c.isDigit = false ∧ c ≠ '.' := by
  cases h with
  | @utc letter hletter =>
      refine ⟨letter, [], rfl, ?_⟩
      rcases hletter with rfl | rfl
      · decide
      · decide
  | @zone sign _ _ _ _ hsign =>
      refine ⟨sign, _, rfl, ?_⟩
      rcases hsign with rfl | rfl | rfl
      · decide
      · decide
      · decide

/-! ## The whole -/

/-- What a timestamp says. -/
structure Said where
  year : Nat
  month : Nat
  day : Nat
  hour : Nat
  minute : Nat
  second : Nat
  nano : Nat
  /-- Minutes to the east of UTC. -/
  east : Int

namespace Said

def date (s : Said) : Date := ⟨s.year, s.month, s.day⟩

/-- The second of the day, in which second 60 is second 59 once more. -/
def clock (s : Said) : Nat := s.hour * 3600 + s.minute * 60 + min s.second 59

/-- There are such a date, such a clock and such an offset. -/
structure Valid (s : Said) : Prop where
  date : s.date.isValid = true
  hour_le : s.hour ≤ 23
  minute_le : s.minute ≤ 59
  second_le : s.second ≤ 60
  east_lt : s.east.natAbs < 24 * 60

/-- The instant that is said. -/
structure Means (s : Said) (t : Instant) : Prop where
  seconds_eq : t.seconds = s.date.toDay * fullDay + s.clock - s.east * 60
  nano_eq : t.nano = if s.second = 60 then s.nano + fullSecond else s.nano

end Said

/-- The form of a timestamp. -/
inductive Written : List Char → Said → Prop
  | parts {s : Said} {year month day hour minute second fraction offset : List Char} {mark : Char}
      (year_eq : Digits 4 year s.year) (month_eq : Digits 2 month s.month)
      (day_eq : Digits 2 day s.day) (mark_eq : mark ∈ ['T', 't', ' '])
      (hour_eq : Digits 2 hour s.hour) (minute_eq : Digits 2 minute s.minute)
      (second_eq : Digits 2 second s.second) (fraction_eq : IsFraction fraction s.nano)
      (offset_eq : IsOffset offset s.east) :
      Written (year ++ '-' :: (month ++ '-' :: (day ++ mark :: (hour ++ ':' :: (minute ++
        ':' :: (second ++ (fraction ++ offset))))))) s

/-- A text names an instant. -/
def Names (cs : List Char) (t : Instant) : Prop := ∃ s, Written cs s ∧ s.Valid ∧ s.Means t

theorem length_le_byteLength (cs : List Char) : cs.length ≤ Text.byteLength cs := by
  induction cs with
  | nil => exact Nat.le_refl 0
  | cons c cs ih =>
      have hsize := c.utf8Size_pos
      rw [List.length_cons, Text.byteLength]
      omega

theorem Written.not_tooShort {cs : List Char} {s : Said} (h : Written cs s) :
    ¬ Text.byteLength cs < 19 := by
  refine Nat.not_lt.mpr (Nat.le_trans ?_ (length_le_byteLength cs))
  obtain ⟨hyear, hmonth, hday, -, hhour, hminute, hsecond, -, -⟩ := h
  simp only [List.length_append, List.length_cons, hyear.length_eq, hmonth.length_eq,
    hday.length_eq, hhour.length_eq, hminute.length_eq, hsecond.length_eq]
  omega

theorem min_second {second : Nat} (h : second ≤ 60) :
    (if second = 60 then 59 else second) = min second 59 := by
  split
  · omega
  · omega

theorem names_of_parse {cs : List Char} {t : Instant} (h : parse cs = .ok t) : Names cs t := by
  rw [parse] at h
  split at h
  · cases h
  obtain ⟨⟨year, cs₁⟩, hyear, h⟩ := Except.bind_eq_ok.mp h
  obtain ⟨cs₂, hdash, h⟩ := Except.bind_eq_ok.mp h
  obtain ⟨⟨month, cs₃⟩, hmonth, h⟩ := Except.bind_eq_ok.mp h
  obtain ⟨cs₄, hdash', h⟩ := Except.bind_eq_ok.mp h
  obtain ⟨⟨day, cs₅⟩, hday, h⟩ := Except.bind_eq_ok.mp h
  -- One check is exposed at a time; everything behind it stands in both of its branches.
  change (if _ then _ else _) = Except.ok t at h
  split at h
  · cases h
  next hvalid =>
  obtain ⟨cs₆, hmark, h⟩ := Except.bind_eq_ok.mp h
  obtain ⟨⟨hour, cs₇⟩, hhour, h⟩ := Except.bind_eq_ok.mp h
  obtain ⟨cs₈, hcolon, h⟩ := Except.bind_eq_ok.mp h
  obtain ⟨⟨minute, cs₉⟩, hminute, h⟩ := Except.bind_eq_ok.mp h
  obtain ⟨cs₁₀, hcolon', h⟩ := Except.bind_eq_ok.mp h
  obtain ⟨⟨second, cs₁₁⟩, hsecond, h⟩ := Except.bind_eq_ok.mp h
  obtain ⟨⟨nano, cs₁₂⟩, hfraction, h⟩ := Except.bind_eq_ok.mp h
  change (if _ then _ else _) = Except.ok t at h
  split at h
  · cases h
  next hclock =>
  obtain ⟨⟨east, cs₁₃⟩, hoffset, h⟩ := Except.bind_eq_ok.mp h
  change (if _ then _ else _) = Except.ok t at h
  split at h
  · cases h
  next hend =>
  change (if _ then _ else _) = Except.ok t at h
  split at h
  · cases h
  next heast =>
  simp only [] at h
  split at h
  · next instant hinstant =>
      cases h
      obtain ⟨yearText, hyearText, rfl⟩ := number_eq_ok.mp hyear
      obtain ⟨_, hmem, rfl⟩ := expect_eq_ok.mp hdash
      cases List.mem_singleton.mp hmem
      obtain ⟨monthText, hmonthText, rfl⟩ := number_eq_ok.mp hmonth
      obtain ⟨_, hmem, rfl⟩ := expect_eq_ok.mp hdash'
      cases List.mem_singleton.mp hmem
      obtain ⟨dayText, hdayText, rfl⟩ := number_eq_ok.mp hday
      obtain ⟨mark, hmarkText, rfl⟩ := expect_eq_ok.mp hmark
      obtain ⟨hourText, hhourText, rfl⟩ := number_eq_ok.mp hhour
      obtain ⟨_, hmem, rfl⟩ := expect_eq_ok.mp hcolon
      cases List.mem_singleton.mp hmem
      obtain ⟨minuteText, hminuteText, rfl⟩ := number_eq_ok.mp hminute
      obtain ⟨_, hmem, rfl⟩ := expect_eq_ok.mp hcolon'
      cases List.mem_singleton.mp hmem
      obtain ⟨secondText, hsecondText, rfl⟩ := number_eq_ok.mp hsecond
      obtain ⟨fractionText, hfractionText, rfl⟩ := exists_of_fraction hfraction
      obtain ⟨offsetText, hoffsetText, rfl⟩ := exists_of_offset hoffset
      cases Decidable.not_not.mp hend
      rw [List.append_nil]
      obtain ⟨hseconds, hnano⟩ := Instant.ofSeconds?_eq_some.mp hinstant
      have hbounds : hour ≤ 23 ∧ minute ≤ 59 ∧ second ≤ 60 := by omega
      have hdate : Date.isValid ⟨year, month, day⟩ = true := by simpa using hvalid
      rw [min_second hbounds.2.2] at hseconds
      exact ⟨⟨year, month, day, hour, minute, second, nano, east⟩,
        .parts hyearText hmonthText hdayText hmarkText hhourText hminuteText hsecondText
          hfractionText hoffsetText,
        ⟨hdate, hbounds.1, hbounds.2.1, hbounds.2.2, Nat.lt_of_not_le heast⟩, hseconds, hnano⟩
  · cases h

theorem parse_of_names {cs : List Char} {t : Instant} (h : Names cs t) : parse cs = .ok t := by
  obtain ⟨s, hwritten, hvalid, hmeans⟩ := h
  rw [parse, if_neg hwritten.not_tooShort]
  obtain ⟨hyear, hmonth, hday, hmark, hhour, hminute, hsecond, hfraction, hoffset⟩ := hwritten
  obtain ⟨c, rest, hsign, hdigit, hpoint⟩ := hoffset.exists_cons
  have hdate : Date.isValid ⟨s.year, s.month, s.day⟩ = true := hvalid.date
  have hexpect (c : Char) (rest : List Char) : expect [c] (c :: rest) = .ok rest :=
    expect_eq_ok.mpr ⟨c, List.mem_singleton_self c, rfl⟩
  have hinstant := Instant.ofSeconds?_eq_some.mpr ⟨hmeans.seconds_eq, hmeans.nano_eq⟩
  rw [Said.clock, ← min_second hvalid.second_le] at hinstant
  refine Except.bind_eq_ok.mpr ⟨_, number_eq_ok.mpr ⟨_, hyear, rfl⟩, ?_⟩
  refine Except.bind_eq_ok.mpr ⟨_, hexpect _ _, ?_⟩
  refine Except.bind_eq_ok.mpr ⟨_, number_eq_ok.mpr ⟨_, hmonth, rfl⟩, ?_⟩
  refine Except.bind_eq_ok.mpr ⟨_, hexpect _ _, ?_⟩
  refine Except.bind_eq_ok.mpr ⟨_, number_eq_ok.mpr ⟨_, hday, rfl⟩, ?_⟩
  refine (if_neg (by rw [hdate]; decide)).trans ?_
  refine Except.bind_eq_ok.mpr ⟨_, expect_eq_ok.mpr ⟨_, hmark, rfl⟩, ?_⟩
  refine Except.bind_eq_ok.mpr ⟨_, number_eq_ok.mpr ⟨_, hhour, rfl⟩, ?_⟩
  refine Except.bind_eq_ok.mpr ⟨_, hexpect _ _, ?_⟩
  refine Except.bind_eq_ok.mpr ⟨_, number_eq_ok.mpr ⟨_, hminute, rfl⟩, ?_⟩
  refine Except.bind_eq_ok.mpr ⟨_, hexpect _ _, ?_⟩
  refine Except.bind_eq_ok.mpr ⟨_, number_eq_ok.mpr ⟨_, hsecond, rfl⟩, ?_⟩
  refine Except.bind_eq_ok.mpr ⟨_, hsign ▸ fraction_append hfraction hdigit hpoint, ?_⟩
  have hhour := hvalid.hour_le
  have hminute := hvalid.minute_le
  have hsecond := hvalid.second_le
  refine (if_neg (by omega)).trans ?_
  refine Except.bind_eq_ok.mpr ⟨_, List.append_nil _ ▸ offset_append hoffset [], ?_⟩
  refine (if_neg (by simp)).trans ((if_neg (Nat.not_le.mpr hvalid.east_lt)).trans ?_)
  simp only [Said.date] at hinstant
  simp only [hinstant]
  rfl

/-- Reading a timestamp finds the instant that it names, and nothing else is a timestamp. -/
theorem parse_eq_ok {cs : List Char} {t : Instant} : parse cs = .ok t ↔ Names cs t :=
  ⟨names_of_parse, parse_of_names⟩

end Rollup.Calendar.Timestamp
