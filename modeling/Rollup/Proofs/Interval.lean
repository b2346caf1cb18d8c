import Mathlib.Data.List.TakeWhile
import Rollup.Interval
import Rollup.Proofs.Casing

/-!
# A written interval is read back

Which unit an interval is written in does not matter for reading it: whatever
the unit is, it divides the interval, so the number in front of its letter times
the unit is the interval again. The four branches of the writer are taken apart
once, into the largest unit that divides and the number of times it does, and the
reader only ever meets those two. There are no blanks and no capitals in what is
written, so that the reader takes it as it stands.

The reader looks at a number twice, before and after the unit is counted in. The
first look refuses nothing that the second would let through, since no unit is
shorter than a second.
-/

namespace Rollup

theorem Word.signed?_eq_some {n m : Nat} : signed? n = some m ↔ n = m ∧ n < signedBound := by
  rw [signed?]
  split
  · next h => simp [h]
  · next h => simp [h]

namespace Interval

theorem ofNat?_seconds (i : Interval) : ofNat? i.seconds = some i := dif_pos ⟨i.pos, i.lt⟩

theorem ofNat?_eq_some {n : Nat} {i : Interval} : ofNat? n = some i ↔ i.seconds = n := by
  constructor
  · intro h
    rw [ofNat?] at h
    split at h
    · cases h
      rfl
    · cases h
  · rintro rfl
    exact ofNat?_seconds i

theorem ofNat?_of_le {n : Nat} (h : Word.signedBound ≤ n) : ofNat? n = none :=
  dif_neg fun hbounds => Nat.not_lt.mpr h hbounds.2

/-! ## Units -/

/-- The letters of the units, with the seconds of each. -/
def unitLetters : List (Char × Nat) :=
  [('s', 1), ('m', 60), ('h', 3600), ('d', 86400), ('w', 604800)]

theorem unit?_eq_some {cs : List Char} {unit : Nat} :
    unit? cs = some unit ↔ ∃ letter, cs = [letter] ∧ (letter, unit) ∈ unitLetters := by
  constructor
  · intro h
    rw [unit?.eq_def] at h
    split at h
    · cases h; exact ⟨'s', rfl, by decide⟩
    · cases h; exact ⟨'m', rfl, by decide⟩
    · cases h; exact ⟨'h', rfl, by decide⟩
    · cases h; exact ⟨'d', rfl, by decide⟩
    · cases h; exact ⟨'w', rfl, by decide⟩
    · cases h
  · rintro ⟨letter, rfl, hletter⟩
    have hall : ∀ entry ∈ unitLetters, unit? [entry.1] = some entry.2 := by decide
    exact hall _ hletter

theorem of_mem_unitLetters {letter : Char} {unit : Nat} (h : (letter, unit) ∈ unitLetters) :
    0 < unit ∧ letter.isDigit = false ∧ Text.PlainChar letter := by
  have hall : ∀ entry ∈ unitLetters,
      0 < entry.2 ∧ entry.1.isDigit = false ∧ Text.PlainChar entry.1 := by decide
  exact hall _ h

/-! ## Writing -/

/-- The units that intervals are written in: all but the week. -/
def writtenUnits : List (Char × Nat) := [('d', 86400), ('h', 3600), ('m', 60), ('s', 1)]

/-- The largest of the written units that divide an interval, with its letter. -/
structure LargestUnit (i : Interval) (letter : Char) (unit : Nat) : Prop where
  listed : (letter, unit) ∈ writtenUnits
  dvd : unit ∣ i.seconds
  largest : ∀ other ∈ writtenUnits, other.2 ∣ i.seconds → other.2 ≤ unit

/-- An interval is written in the largest unit that divides it. -/
theorem exists_largestUnit (i : Interval) :
    ∃ letter unit, i.LargestUnit letter unit ∧
      i.write = Nat.toDigits 10 (i.seconds / unit) ++ [letter] := by
  have hlargest {unit : Nat} (hday : 86400 ∣ i.seconds → 86400 ≤ unit)
      (hhour : 3600 ∣ i.seconds → 3600 ≤ unit) (hminute : 60 ∣ i.seconds → 60 ≤ unit)
      (hsecond : 1 ≤ unit) : ∀ other ∈ writtenUnits, other.2 ∣ i.seconds → other.2 ≤ unit := by
    simpa [writtenUnits] using ⟨hday, hhour, hminute, hsecond⟩
  have hnot {unit n : Nat} (hmod : ¬i.seconds % unit = 0) (hdvd : unit ∣ i.seconds) : unit ≤ n :=
    absurd (Nat.mod_eq_zero_of_dvd hdvd) hmod
  rw [write]
  split
  · next hday =>
      exact ⟨'d', 86400, ⟨by decide, Nat.dvd_of_mod_eq_zero hday, hlargest (fun _ => by omega)
        (fun _ => by omega) (fun _ => by omega) (by omega)⟩, rfl⟩
  split
  · next hday hhour =>
      exact ⟨'h', 3600, ⟨by decide, Nat.dvd_of_mod_eq_zero hhour, hlargest (hnot hday)
        (fun _ => by omega) (fun _ => by omega) (by omega)⟩, rfl⟩
  split
  · next hday hhour hminute =>
      exact ⟨'m', 60, ⟨by decide, Nat.dvd_of_mod_eq_zero hminute, hlargest (hnot hday)
        (hnot hhour) (fun _ => by omega) (by omega)⟩, rfl⟩
  · next hday hhour hminute =>
      refine ⟨'s', 1, ⟨by decide, Nat.one_dvd _, hlargest (hnot hday) (hnot hhour) (hnot hminute)
        (by omega)⟩, ?_⟩
      rw [Nat.div_one]

/-- A written interval is a number and the letter of a unit, which make up the interval. -/
theorem exists_write (i : Interval) :
    ∃ n letter unit, i.write = Nat.toDigits 10 n ++ [letter] ∧ (letter, unit) ∈ unitLetters ∧
      n * unit = i.seconds := by
  have hread : ∀ entry ∈ writtenUnits, entry ∈ unitLetters := by decide
  obtain ⟨letter, unit, hunit, hwrite⟩ := exists_largestUnit i
  exact ⟨_, letter, unit, hwrite, hread _ hunit.listed, Nat.div_mul_cancel hunit.dvd⟩

/-! ## Reading -/

/-- The name of a unit does not start with a digit. -/
theorem named?_cons_of_isDigit {c : Char} (hc : c.isDigit = true) (cs : List Char) :
    named? (c :: cs) = none := by
  have hne : ∀ {unitName : String}, unitName.toList.head?.any Char.isDigit = false →
      c :: cs ≠ unitName.toList := by
    intro unitName hletter heq
    rw [← heq, List.head?_cons, Option.any_some, hc] at hletter
    cases hletter
  rw [named?, if_neg (hne (by decide)), if_neg (hne (by decide)), if_neg (hne (by decide)),
    if_neg (hne (by decide))]

/-- Whether the number is too large is decided by its seconds alone. -/
theorem signed?_bind_signed? {n unit : Nat} (hunit : 0 < unit) :
    ((Word.signed? n).bind fun n => (Word.signed? (n * unit)).bind ofNat?) = ofNat? (n * unit) := by
  have hle : n ≤ n * unit := Nat.le_mul_of_pos_right n hunit
  by_cases hseconds : n * unit < Word.signedBound
  · have hnumber : n < Word.signedBound := Nat.lt_of_le_of_lt hle hseconds
    rw [Word.signed?_eq_some.mpr ⟨rfl, hnumber⟩, Option.bind_some,
      Word.signed?_eq_some.mpr ⟨rfl, hseconds⟩, Option.bind_some]
  · rw [ofNat?_of_le (Nat.not_lt.mp hseconds)]
    refine Option.bind_eq_none_iff.mpr fun m hm => ?_
    obtain ⟨rfl, -⟩ := Word.signed?_eq_some.mp hm
    rw [Word.signed?, if_neg hseconds, Option.bind_none]

theorem counted?_append {digits : List Char} (hne : digits ≠ [])
    (hdigits : ∀ c ∈ digits, c.isDigit = true) {letter : Char} {unit : Nat}
    (hunit : (letter, unit) ∈ unitLetters) :
    counted? (digits ++ [letter]) = ofNat? (Nat.ofDigitChars 10 digits 0 * unit) := by
  obtain ⟨hpos, hletter, -⟩ := of_mem_unitLetters hunit
  have hread : Text.digits? digits = some (Nat.ofDigitChars 10 digits 0) :=
    if_pos ⟨hne, List.all_eq_true.mpr hdigits⟩
  have htake : (digits ++ [letter]).takeWhile Char.isDigit = digits := by
    rw [Text.takeWhile_append_cons_of_neg hletter, List.takeWhile_eq_self_iff.mpr hdigits]
  have hdrop : (digits ++ [letter]).dropWhile Char.isDigit = [letter] := by
    rw [Text.dropWhile_append_cons_of_neg hletter, List.dropWhile_eq_nil_iff.mpr hdigits,
      List.nil_append]
  rw [counted?, htake, hdrop, hread, unit?_eq_some.mpr ⟨letter, rfl, hunit⟩]
  exact signed?_bind_signed? hpos

theorem ofChars?_append {digits : List Char} (hne : digits ≠ [])
    (hdigits : ∀ c ∈ digits, c.isDigit = true) {letter : Char} {unit : Nat}
    (hunit : (letter, unit) ∈ unitLetters) :
    ofChars? (digits ++ [letter]) = ofNat? (Nat.ofDigitChars 10 digits 0 * unit) := by
  have hnamed : named? (digits ++ [letter]) = none := by
    obtain ⟨first, rest, rfl⟩ := List.exists_cons_of_ne_nil hne
    exact named?_cons_of_isDigit (hdigits first List.mem_cons_self) _
  rw [ofChars?, hnamed]
  exact counted?_append hne hdigits hunit

theorem ofChars?_write (i : Interval) : ofChars? i.write = some i := by
  obtain ⟨n, letter, unit, hwrite, hunit, hseconds⟩ := exists_write i
  have hdigits : ∀ c ∈ Nat.toDigits 10 n, c.isDigit = true := fun c hc =>
    Nat.isDigit_of_mem_toDigits (by decide) (by decide) hc
  rw [hwrite, ofChars?_append (List.ne_nil_of_length_pos Nat.length_toDigits_pos) hdigits hunit,
    Nat.ofDigitChars_ten_toDigits, hseconds, ofNat?_seconds]

theorem plainChar_of_mem_write {i : Interval} {c : Char} (h : c ∈ i.write) :
    Text.PlainChar c := by
  obtain ⟨n, letter, unit, hwrite, hunit, -⟩ := exists_write i
  rw [hwrite] at h
  rcases List.mem_append.mp h with hdigit | hletter
  · exact .of_isDigit (Nat.isDigit_of_mem_toDigits (by decide) (by decide) hdigit)
  · rw [List.mem_singleton.mp hletter]
    exact (of_mem_unitLetters hunit).2.2

/-- What is rendered is read as the interval. -/
theorem ofText?_render (i : Interval) : ofText? i.render = some i := by
  rw [ofText?, render, String.toList_ofList,
    Text.lowercase_trim_of_plain fun c => plainChar_of_mem_write, ofChars?_write]

theorem render_injective : Function.Injective render := by
  intro i j h
  have hwrite : i.write = j.write := String.ofList_injective h
  have hread := ofChars?_write i
  rw [hwrite, ofChars?_write j] at hread
  exact (Option.some.inj hread).symm

/-- The rendered form is a normal form. It is read back, it names the largest unit that divides the
interval, and texts are read as one interval if and only if they have one normal form. -/
theorem render_canonical :
    (∀ i : Interval, ofText? i.render = some i) ∧
      (∀ i : Interval, ∃ letter unit, i.LargestUnit letter unit ∧
        i.render.toList = Nat.toDigits 10 (i.seconds / unit) ++ [letter]) ∧
      ∀ (s t : String) (i j : Interval), ofText? s = some i → ofText? t = some j →
        (ofText? s = ofText? t ↔ i.render = j.render) := by
  refine ⟨ofText?_render, fun i => ?_, fun s t i j hs ht => ?_⟩
  · obtain ⟨letter, unit, hunit, hwrite⟩ := exists_largestUnit i
    exact ⟨letter, unit, hunit, by rw [render, String.toList_ofList, hwrite]⟩
  · rw [hs, ht, Option.some.injEq]
    exact render_injective.eq_iff.symm

/-- A name, and digits with blanks and a capital, for one interval. -/
theorem render_canonical_week :
    ofText? "week" = some week ∧ ofText? " 168H\n" = some week ∧ week.render = "7d" ∧
      ofText? "week" = ofText? " 168H\n" := by
  have hname : ofText? "week" = some week := by decide +kernel
  have hdigits : ofText? " 168H\n" = some week := by decide +kernel
  exact ⟨hname, hdigits, by decide, (render_canonical.2.2 _ _ _ _ hname hdigits).mpr rfl⟩

end Interval

end Rollup
