import Mathlib.Data.List.TakeWhile
import Rollup.Binary64.Decimal
import Rollup.Proofs.Binary64.Nearest

/-!
# The plain text of a number is its own

Two finite numbers with one plain text are one number, the sign of a zero
included. The digits come from a search that keeps only a decimal that reads
back, moving zeros into the exponent changes nothing about its value, and the
positional layout is read back by counting digits behind the point. So the text
gives the value, and the value, rounded, gives the place. Whatever has no
digits, an infinity or `nan`, is told apart by its first letters.
-/

namespace Rollup.Binary64

/-- The rational number that a decimal stands for. -/
def Decimal.value (d : Decimal) : ℚ := d.coefficient * (10 : ℚ) ^ d.exponent

/-! ## The digits read back -/

theorem moveZeros_value (d : Decimal) (n : ℕ) : (d.moveZeros n).value = d.value := by
  induction n generalizing d with
  | zero => rfl
  | succ n ih =>
      rw [Decimal.moveZeros]
      split
      · next h =>
          have hten : (d.coefficient : ℚ) = ((d.coefficient / 10 : ℕ) : ℚ) * 10 := by
            exact_mod_cast (Nat.div_mul_cancel (Nat.dvd_of_mod_eq_zero h.2)).symm
          rw [ih, Decimal.value, Decimal.value, hten, zpow_add₀ (by norm_num), zpow_one]
          ring
      · rfl

theorem strip_value (d : Decimal) : d.strip.value = d.value := moveZeros_value d _

/-- The test that a neighbour on a grid has to pass. -/
def readsBack (place : ℕ) (d : Decimal) : Bool :=
  nearestPlace (.ofDecimal d.coefficient d.exponent) = place

theorem nearest_of_readsBack {place : ℕ} {d : Decimal} (h : readsBack place d = true) :
    nearest d.value = place := by
  have hplace := of_decide_eq_true h
  rwa [nearestPlace_eq_nearest (ofDecimal_den_pos _ _), ofDecimal_value] at hplace

/-- Whichever neighbour is tried first, both have to pass. -/
theorem onGrid_eq_ite (tie : Tie) (place digits : ℕ) :
    ∃ first second, onGrid tie place digits =
      if readsBack place first then some first
      else if readsBack place second then some second else none :=
  ⟨_, _, rfl⟩

theorem nearest_onGrid {tie : Tie} {place digits : ℕ} {d : Decimal}
    (h : onGrid tie place digits = some d) : nearest d.value = place := by
  obtain ⟨first, second, heq⟩ := onGrid_eq_ite tie place digits
  rw [heq] at h
  split at h
  · next hback => cases h; exact nearest_of_readsBack hback
  · split at h
    · next hback => cases h; exact nearest_of_readsBack hback
    · cases h

/-- Halves are fives a place further on, so the expansion is exact. -/
theorem exactDecimal_value (place : ℕ) :
    (exactDecimal place).value = (magnitude place).value := by
  rw [magnitude, ofScaled_value, exactDecimal]
  split
  · next h =>
      rw [zpow_of_nonneg h, Decimal.value, zpow_zero, mul_one, Nat.cast_mul]
  · next h =>
      obtain ⟨n, hn⟩ := Int.eq_ofNat_of_zero_le (show 0 ≤ -scale place by omega)
      have hscale : scale place = -(n : ℤ) := by omega
      rw [Decimal.value, hscale, neg_neg, Int.toNat_natCast, Nat.pow_eq, Nat.cast_mul,
        Nat.cast_pow, zpow_neg, zpow_neg, zpow_natCast, zpow_natCast, mul_assoc]
      congr 1
      rw [show (10 : ℚ) = 5 * 2 by norm_num, mul_pow]
      field_simp
      push_cast
      rfl

theorem nearest_shortest (tie : Tie) (place : ℕ) :
    nearest (shortest tie place).value = place := by
  rw [shortest, strip_value]
  cases hfound : (List.range 17).findSome? fun n => onGrid tie place (n + 1) with
  | none => rw [Option.getD_none, exactDecimal_value, nearest_magnitude]
  | some d =>
      obtain ⟨n, -, hgrid⟩ := List.exists_of_findSome?_eq_some hfound
      exact nearest_onGrid hgrid

/-! ## The layout reads back -/

/-- The number that digits with a point among them spell. -/
def textValue (cs : List Char) : ℚ :=
  let fraction := (cs.dropWhile Char.isDigit).drop 1
  (Nat.ofDigitChars 10 (cs.takeWhile Char.isDigit ++ fraction) 0 : ℕ) /
    (10 : ℚ) ^ fraction.length

theorem textValue_of_digits {cs : List Char} (h : ∀ c ∈ cs, c.isDigit = true) :
    textValue cs = (Nat.ofDigitChars 10 cs 0 : ℕ) := by
  have htake : cs.takeWhile Char.isDigit = cs := List.takeWhile_eq_self_iff.mpr h
  have hdrop : cs.dropWhile Char.isDigit = [] := List.dropWhile_eq_nil_iff.mpr h
  rw [textValue]
  simp [htake, hdrop]

theorem textValue_of_point {whole fraction : List Char}
    (h : ∀ c ∈ whole, c.isDigit = true) :
    textValue (whole ++ '.' :: fraction) =
      (Nat.ofDigitChars 10 (whole ++ fraction) 0 : ℕ) / (10 : ℚ) ^ fraction.length := by
  have htake : (whole ++ '.' :: fraction).takeWhile Char.isDigit = whole := by
    rw [List.takeWhile_append_of_pos h, List.takeWhile_cons_of_neg (by decide),
      List.append_nil]
  have hdrop : (whole ++ '.' :: fraction).dropWhile Char.isDigit = '.' :: fraction := by
    rw [List.dropWhile_append_of_pos h, List.dropWhile_cons_of_neg (by decide)]
  rw [textValue, htake, hdrop]
  rfl

theorem isDigit_of_mem_digits {n : ℕ} {c : Char} (h : c ∈ Nat.toDigits 10 n) :
    c.isDigit = true := Nat.isDigit_of_mem_toDigits (by decide) (by decide) h

theorem isDigit_of_mem_zero : ∀ c ∈ ['0'], c.isDigit = true := List.forall_mem_singleton.mpr rfl

theorem textValue_positional (n : ℕ) (e : ℤ) :
    textValue (positional (Nat.toDigits 10 n) e) = n * (10 : ℚ) ^ e := by
  rw [positional]
  split
  · next h =>
      obtain ⟨k, rfl⟩ := Int.eq_ofNat_of_zero_le h
      rw [Int.toNat_natCast, textValue_of_digits, Nat.ofDigitChars_append,
        Nat.ofDigitChars_ten_toDigits, Nat.ofDigitChars_replicate_zero, zpow_natCast]
      · push_cast
        ring
      · intro c hc
        rcases List.mem_append.mp hc with hc | hc
        · exact isDigit_of_mem_digits hc
        · rw [(List.mem_replicate.mp hc).2]
          decide
  · next h =>
      obtain ⟨k, hk⟩ := Int.eq_ofNat_of_zero_le (show 0 ≤ -e by omega)
      have he : e = -(k : ℤ) := by omega
      simp only [he, neg_neg, Int.toNat_natCast, zpow_neg, zpow_natCast]
      split
      · next hlt =>
          have hlength :
              ((Nat.toDigits 10 n).drop ((Nat.toDigits 10 n).length - k)).length = k := by
            rw [List.length_drop]
            omega
          rw [textValue_of_point fun c hc => isDigit_of_mem_digits (List.mem_of_mem_take hc),
            List.take_append_drop, Nat.ofDigitChars_ten_toDigits, hlength, div_eq_mul_inv]
      · next hge =>
          have hlength : (List.replicate (k - (Nat.toDigits 10 n).length) '0' ++
              Nat.toDigits 10 n).length = k := by
            rw [List.length_append, List.length_replicate]
            omega
          have hpoint := @textValue_of_point ['0'] (List.replicate
            (k - (Nat.toDigits 10 n).length) '0' ++ Nat.toDigits 10 n) isDigit_of_mem_zero
          rw [hlength, Nat.ofDigitChars_append, Nat.ofDigitChars_append,
            Nat.ofDigitChars_replicate_zero] at hpoint
          rw [show Nat.ofDigitChars 10 ['0'] 0 = 0 by decide, mul_zero,
            Nat.ofDigitChars_ten_toDigits] at hpoint
          rw [← div_eq_mul_inv, ← hpoint]
          rfl

/-! ## The whole text -/

/-- The text of a finite magnitude, without its sign. -/
def plainMagnitude (place : ℕ) : List Char :=
  if place = 0 then ['0']
  else positional (Nat.toDigits 10 (shortest .upward place).coefficient)
    (shortest .upward place).exponent

theorem plain_finite (negative : Bool) (place : Fin magnitudeCount) :
    plain (.finite negative place) = signed negative (plainMagnitude place) := rfl

theorem nearest_textValue_plainMagnitude (place : ℕ) :
    nearest (textValue (plainMagnitude place)) = place := by
  rw [plainMagnitude]
  split
  · next h =>
      have hzero : Nat.ofDigitChars 10 ['0'] 0 = 0 := by decide
      rw [h, textValue_of_digits isDigit_of_mem_zero, hzero, Nat.cast_zero, nearest, if_pos rfl]
  · rw [textValue_positional, ← Decimal.value, nearest_shortest]

/-- A positional text starts with a digit, and holds digits and a point. -/
theorem positional_shape {digits : List Char} (hne : digits ≠ [])
    (h : ∀ c ∈ digits, c.isDigit = true) (e : ℤ) :
    (∃ c cs, positional digits e = c :: cs ∧ c.isDigit = true) ∧
      ∀ c ∈ positional digits e, c.isDigit = true ∨ c = '.' := by
  have hzeros : ∀ n, ∀ c ∈ List.replicate n '0', c.isDigit = true := by
    intro n c hc
    rw [(List.mem_replicate.mp hc).2]
    decide
  rw [positional]
  split
  · obtain ⟨first, rest, rfl⟩ := List.exists_cons_of_ne_nil hne
    refine ⟨⟨first, _, rfl, h first (by simp)⟩, fun c hc => Or.inl ?_⟩
    rcases List.mem_append.mp hc with hc | hc
    · exact h c hc
    · exact hzeros _ c hc
  · simp only []
    split
    · next hlt =>
        have htake : digits.take (digits.length - (-e).toNat) ≠ [] := by
          rw [ne_eq, List.take_eq_nil_iff, not_or]
          exact ⟨by omega, hne⟩
        obtain ⟨first, rest, hfirst⟩ := List.exists_cons_of_ne_nil htake
        refine ⟨⟨first, _, by rw [hfirst]; rfl, ?_⟩, ?_⟩
        · exact h first (List.mem_of_mem_take (hfirst ▸ List.mem_cons_self))
        · intro c hc
          rcases List.mem_append.mp hc with hc | hc
          · exact Or.inl (h c (List.mem_of_mem_take hc))
          · rcases List.mem_cons.mp hc with hc | hc
            · exact Or.inr hc
            · exact Or.inl (h c (List.mem_of_mem_drop hc))
    · refine ⟨⟨'0', _, rfl, by decide⟩, ?_⟩
      intro c hc
      rcases List.mem_append.mp hc with hc | hc
      · rcases List.mem_cons.mp hc with rfl | hc
        · exact Or.inl (by decide)
        · rcases List.mem_cons.mp hc with hc | hc
          · exact Or.inr hc
          · exact Or.inl (hzeros _ c hc)
      · exact Or.inl (h c hc)

theorem plainMagnitude_shape (place : ℕ) :
    (∃ c cs, plainMagnitude place = c :: cs ∧ c.isDigit = true) ∧
      ∀ c ∈ plainMagnitude place, c.isDigit = true ∨ c = '.' := by
  rw [plainMagnitude]
  split
  · exact ⟨⟨'0', [], rfl, rfl⟩, fun c hc => Or.inl (isDigit_of_mem_zero c hc)⟩
  · exact positional_shape Nat.toDigits_ne_nil (fun c hc => isDigit_of_mem_digits hc) _

/-- The separators of an identity text never occur in a number. -/
theorem amp_not_mem_plain (x : Binary64) : '&' ∉ plain x := by
  cases x with
  | nan => decide
  | infinite negative => cases negative <;> decide
  | finite negative place =>
      have hmagnitude : '&' ∉ plainMagnitude place := fun h =>
        absurd ((plainMagnitude_shape place).2 _ h) (by decide)
      rw [plain_finite]
      cases negative with
      | false => exact hmagnitude
      | true => exact fun h => (List.mem_cons.mp h).elim (by decide) hmagnitude

theorem signed_inj {a b : Bool} {s t : List Char} (hs : s.head? ≠ some '-')
    (ht : t.head? ≠ some '-') (h : signed a s = signed b t) : a = b ∧ s = t := by
  cases a <;> cases b
  · exact ⟨rfl, h⟩
  · rw [show s = '-' :: t from h] at hs
    exact absurd rfl hs
  · rw [← show '-' :: s = t from h] at ht
    exact absurd rfl ht
  · exact ⟨rfl, (List.cons.inj h).2⟩

theorem plainMagnitude_head (place : ℕ) : (plainMagnitude place).head? ≠ some '-' := by
  obtain ⟨⟨c, cs, hcs, hc⟩, -⟩ := plainMagnitude_shape place
  rw [hcs, List.head?_cons, ne_eq, Option.some.injEq]
  rintro rfl
  exact absurd hc (by decide)

/-- No text of letters is that of a magnitude. -/
theorem plainMagnitude_ne_word (place : ℕ) {c : Char} {cs : List Char}
    (hc : c.isDigit = false) : plainMagnitude place ≠ c :: cs := by
  obtain ⟨⟨d, ds, hds, hd⟩, -⟩ := plainMagnitude_shape place
  rw [hds]
  rintro h
  rw [(List.cons.inj h).1, hc] at hd
  exact Bool.noConfusion hd

/-- Different numbers have different plain texts. -/
theorem plain_injective {x y : Binary64} (h : plain x = plain y) : x = y := by
  have hword : ∀ (a b : Bool) (place : Fin magnitudeCount),
      plain (.finite a place) ≠ plain (.infinite b) := by
    intro a b place heq
    exact plainMagnitude_ne_word place (by decide)
      (signed_inj (plainMagnitude_head place) (by decide) heq).2
  have hnan : ∀ (a : Bool) (place : Fin magnitudeCount),
      plain (.finite a place) ≠ plain .nan := by
    intro a place heq
    exact plainMagnitude_ne_word place (by decide)
      (signed_inj (b := false) (plainMagnitude_head place) (by decide) heq).2
  match x, y with
  | .nan, .nan => rfl
  | .nan, .infinite b => cases b <;> exact absurd h (by decide)
  | .infinite a, .nan => cases a <;> exact absurd h (by decide)
  | .infinite a, .infinite b => cases a <;> cases b <;> first | rfl | exact absurd h (by decide)
  | .finite a place, .infinite b => exact absurd h (hword a b place)
  | .infinite a, .finite b place => exact absurd h.symm (hword b a place)
  | .finite a place, .nan => exact absurd h (hnan a place)
  | .nan, .finite b place => exact absurd h.symm (hnan b place)
  | .finite a place, .finite b other =>
      obtain ⟨hsign, htext⟩ :=
        signed_inj (plainMagnitude_head place) (plainMagnitude_head other) h
      have hplace := congrArg (fun cs => nearest (textValue cs)) htext
      simp only [nearest_textValue_plainMagnitude] at hplace
      rw [hsign, Fin.ext hplace]

end Rollup.Binary64
