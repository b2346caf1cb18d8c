import Mathlib.Algebra.Order.Field.Power
import Mathlib.Algebra.Order.Floor.Semifield
import Mathlib.Data.Int.Log
import Mathlib.Data.Rat.Floor
import Mathlib.Tactic.FieldSimp
import Mathlib.Tactic.Linarith
import Mathlib.Tactic.Positivity
import Rollup.Binary64.Basic

/-!
# Rounding is a function of the value

`nearestPlace` computes with a numerator and a denominator. What it answers
hangs on their quotient alone, which is what makes two spellings of one decimal
read as one number. The proof names the function of the quotient, `nearest`,
and finds each part of the computation in it: the guess from the lengths of two
numbers is the logarithm, and the halves compared by doubling a remainder are
those of the fraction.

Rounding then fixes what needs no rounding: the value of a magnitude lies
nearest to its own place.
-/

namespace Rollup.Binary64

/-- The rational number that a numerator and a denominator stand for. -/
def Ratio.value (r : Ratio) : ℚ := r.num / r.den

/-! ## Powers with a sign -/

section

variable {b : ℕ} [b.AtLeastTwo] {e : ℤ}

theorem zpow_of_nonneg (h : 0 ≤ e) :
    (ofNat(b) : ℚ) ^ e = ((Nat.pow ofNat(b) e.toNat : ℕ) : ℚ) := by
  obtain ⟨n, rfl⟩ := Int.eq_ofNat_of_zero_le h
  rw [Int.toNat_natCast, zpow_natCast, Nat.pow_eq, Nat.cast_pow, Nat.cast_ofNat]

theorem zpow_of_neg (h : ¬ 0 ≤ e) :
    (ofNat(b) : ℚ) ^ e = (((Nat.pow ofNat(b) (-e).toNat : ℕ) : ℚ))⁻¹ := by
  rw [← zpow_of_nonneg (by omega), ← zpow_neg, neg_neg]

end

theorem ofScaled_value (n : ℕ) (e : ℤ) :
    (Ratio.ofScaled n e).value = n * (2 : ℚ) ^ e := by
  rw [Ratio.ofScaled]
  split
  · next h =>
      rw [zpow_of_nonneg h, Ratio.value]
      simp
  · next h =>
      rw [zpow_of_neg h, Ratio.value, div_eq_mul_inv]

theorem ofDecimal_value (n : ℕ) (e : ℤ) :
    (Ratio.ofDecimal n e).value = n * (10 : ℚ) ^ e := by
  rw [Ratio.ofDecimal]
  split
  · next h =>
      rw [zpow_of_nonneg h, Ratio.value]
      simp
  · next h =>
      rw [zpow_of_neg h, Ratio.value, div_eq_mul_inv]

theorem ofDecimal_den_pos (n : ℕ) (e : ℤ) : 0 < (Ratio.ofDecimal n e).den := by
  rw [Ratio.ofDecimal]
  split
  · exact Nat.one_pos
  · exact Nat.pow_pos (by decide)

/-! ## The leading bit -/

theorem log_eq {v : ℚ} {e : ℤ} (hlow : (2 : ℚ) ^ e ≤ v) (hhigh : v < (2 : ℚ) ^ (e + 1)) :
    Int.log 2 v = e := by
  have hpos : 0 < v := lt_of_lt_of_le (by positivity) hlow
  have h1 : e ≤ Int.log 2 v :=
    (Int.zpow_le_iff_le_log (by decide) hpos).mp (by exact_mod_cast hlow)
  have h2 : Int.log 2 v < e + 1 :=
    (Int.lt_zpow_iff_log_lt (by decide) hpos).mp (by exact_mod_cast hhigh)
  omega

/-- A number between two powers of two, in units of a power of two. -/
theorem log_mul_zpow {n k : ℕ} (hlow : 2 ^ k ≤ n) (hhigh : n < 2 ^ (k + 1)) (e : ℤ) :
    Int.log 2 ((n : ℚ) * (2 : ℚ) ^ e) = k + e := by
  have he : (0 : ℚ) < (2 : ℚ) ^ e := by positivity
  have hlow' : ((2 : ℚ) ^ k) ≤ n := by exact_mod_cast hlow
  have hhigh' : (n : ℚ) < (2 : ℚ) ^ (k + 1) := by exact_mod_cast hhigh
  refine log_eq ?_ ?_
  · rw [zpow_add₀ (by norm_num), zpow_natCast]
    exact mul_le_mul_of_nonneg_right hlow' he.le
  · rw [show (k : ℤ) + e + 1 = (k + 1 : ℕ) + e by push_cast; ring,
      zpow_add₀ (by norm_num), zpow_natCast]
    exact mul_lt_mul_of_pos_right hhigh' he

/-- The test that `floorLog2` corrects its guess by. -/
def isBelow (r : Ratio) (e : ℤ) : Bool :=
  if 0 ≤ e then r.num < r.den * Nat.pow 2 e.toNat
  else r.num * Nat.pow 2 (-e).toNat < r.den

theorem isBelow_iff {r : Ratio} (hden : 0 < r.den) (e : ℤ) :
    isBelow r e = true ↔ r.value < (2 : ℚ) ^ e := by
  have hdpos : (0 : ℚ) < r.den := by exact_mod_cast hden
  rw [isBelow, Ratio.value, div_lt_iff₀ hdpos]
  split
  · next he =>
      rw [zpow_of_nonneg he, decide_eq_true_eq, mul_comm]
      exact_mod_cast Iff.rfl
  · next he =>
      have hpos : (0 : ℚ) < ((Nat.pow 2 (-e).toNat : ℕ) : ℚ) := by
        exact_mod_cast Nat.pow_pos (by decide)
      rw [zpow_of_neg he, decide_eq_true_eq, inv_mul_eq_div, lt_div_iff₀ hpos]
      exact_mod_cast Iff.rfl

/-- The lengths of numerator and denominator bound the quotient from below. -/
theorem zpow_le_value {r : Ratio} (hnum : 0 < r.num) (hden : 0 < r.den) :
    (2 : ℚ) ^ ((r.num.log2 : ℤ) - r.den.log2 - 1) ≤ r.value := by
  have hn : (2 : ℚ) ^ r.num.log2 ≤ r.num := by
    exact_mod_cast Nat.log2_self_le (by omega)
  have hd : (r.den : ℚ) < (2 : ℚ) ^ (r.den.log2 + 1) := by
    exact_mod_cast Nat.lt_log2_self
  rw [Ratio.value, le_div_iff₀ (by exact_mod_cast hden)]
  calc (2 : ℚ) ^ ((r.num.log2 : ℤ) - r.den.log2 - 1) * r.den
      ≤ (2 : ℚ) ^ ((r.num.log2 : ℤ) - r.den.log2 - 1) * (2 : ℚ) ^ (r.den.log2 + 1) :=
        mul_le_mul_of_nonneg_left hd.le (by positivity)
    _ = (2 : ℚ) ^ r.num.log2 := by
        rw [← zpow_natCast, ← zpow_natCast, ← zpow_add₀ (by norm_num)]
        congr 1
        push_cast
        ring
    _ ≤ r.num := hn

/-- And from above, by twice as much again. -/
theorem value_lt_zpow {r : Ratio} (hden : 0 < r.den) :
    r.value < (2 : ℚ) ^ ((r.num.log2 : ℤ) - r.den.log2 + 1) := by
  have hn : (r.num : ℚ) < (2 : ℚ) ^ (r.num.log2 + 1) := by
    exact_mod_cast Nat.lt_log2_self
  have hd : (2 : ℚ) ^ r.den.log2 ≤ r.den := by
    exact_mod_cast Nat.log2_self_le (by omega)
  rw [Ratio.value, div_lt_iff₀ (by exact_mod_cast hden)]
  calc (r.num : ℚ) < (2 : ℚ) ^ (r.num.log2 + 1) := hn
    _ = (2 : ℚ) ^ ((r.num.log2 : ℤ) - r.den.log2 + 1) * (2 : ℚ) ^ r.den.log2 := by
        rw [← zpow_natCast, ← zpow_natCast, ← zpow_add₀ (by norm_num)]
        congr 1
        push_cast
        ring
    _ ≤ (2 : ℚ) ^ ((r.num.log2 : ℤ) - r.den.log2 + 1) * r.den :=
        mul_le_mul_of_nonneg_left hd (by positivity)

theorem floorLog2_eq_ite (r : Ratio) :
    floorLog2 r = if isBelow r ((r.num.log2 : ℤ) - r.den.log2) then
      (r.num.log2 : ℤ) - r.den.log2 - 1 else (r.num.log2 : ℤ) - r.den.log2 := rfl

/-- Two powers are left, and the test tells which. -/
theorem floorLog2_eq_log {r : Ratio} (hnum : 0 < r.num) (hden : 0 < r.den) :
    floorLog2 r = Int.log 2 r.value := by
  rw [floorLog2_eq_ite]
  split
  · next h =>
      refine (log_eq (zpow_le_value hnum hden) ?_).symm
      rw [sub_add_cancel]
      exact (isBelow_iff hden _).mp h
  · next h =>
      refine (log_eq ?_ (value_lt_zpow hden)).symm
      exact not_lt.mp fun hlt => h ((isBelow_iff hden _).mpr hlt)

/-! ## Halves -/

/-- The whole number nearest to a value, the even one of two equally near. -/
def roundValue (v : ℚ) : ℕ :=
  if 2 * (v - ⌊v⌋₊) < 1 then ⌊v⌋₊
  else if 1 < 2 * (v - ⌊v⌋₊) then ⌊v⌋₊ + 1
  else ⌊v⌋₊ + ⌊v⌋₊ % 2

theorem roundHalfEven_eq_roundValue {r : Ratio} (hden : 0 < r.den) :
    roundHalfEven r = roundValue r.value := by
  have hdpos : (0 : ℚ) < r.den := by exact_mod_cast hden
  have hfloor : ⌊r.value⌋₊ = r.num / r.den := by
    rw [Ratio.value]
    exact Nat.floor_div_eq_div r.num r.den
  have hrest : 2 * (r.value - (r.num / r.den : ℕ)) =
      ((2 * (r.num % r.den) : ℕ) : ℚ) / r.den := by
    have hdivmod : (r.den : ℚ) * (r.num / r.den : ℕ) + (r.num % r.den : ℕ) = r.num := by
      exact_mod_cast Nat.div_add_mod r.num r.den
    rw [Ratio.value, ← hdivmod]
    push_cast
    field_simp
    ring
  have hlt : 2 * (r.value - (r.num / r.den : ℕ)) < 1 ↔ 2 * (r.num % r.den) < r.den := by
    rw [hrest, div_lt_one hdpos]
    exact_mod_cast Iff.rfl
  have hgt : 1 < 2 * (r.value - (r.num / r.den : ℕ)) ↔ r.den < 2 * (r.num % r.den) := by
    rw [hrest, one_lt_div hdpos]
    exact_mod_cast Iff.rfl
  rw [roundHalfEven, roundValue, hfloor]
  simp only [hlt, hgt]

theorem roundValue_natCast (n : ℕ) : roundValue n = n := by
  rw [roundValue, Nat.floor_natCast, sub_self, mul_zero, if_pos one_pos]

/-! ## The nearest place -/

/-- The power of two that values are counted in around a value. -/
def spacing (v : ℚ) : ℤ := max (Int.log 2 v - 52) (-1074)

/-- The place of the magnitude nearest to a value. -/
def nearest (v : ℚ) : ℕ :=
  if v = 0 then 0
  else (spacing v + 1074).toNat * fractionCount + roundValue (v / (2 : ℚ) ^ spacing v)

theorem nearestPlace_eq_nearest {r : Ratio} (hden : 0 < r.den) :
    nearestPlace r = nearest r.value := by
  have hdpos : (0 : ℚ) < r.den := by exact_mod_cast hden
  by_cases hnum : r.num = 0
  · rw [nearestPlace, if_pos hnum, nearest, Ratio.value, hnum, Nat.cast_zero, zero_div,
      if_pos rfl]
  · have hvalue : r.value ≠ 0 := by
      rw [Ratio.value]
      exact div_ne_zero (by exact_mod_cast hnum) hdpos.ne'
    rw [nearestPlace, if_neg hnum, nearest, if_neg hvalue]
    simp only [floorLog2_eq_log (Nat.pos_of_ne_zero hnum) hden]
    rw [← spacing]
    congr 1
    split
    · next hq =>
        rw [roundHalfEven_eq_roundValue (Nat.mul_pos hden (Nat.pow_pos (by decide))),
          zpow_of_nonneg hq, Ratio.value, Ratio.value, div_div, Nat.cast_mul]
    · next hq =>
        rw [roundHalfEven_eq_roundValue (by exact hden), zpow_of_neg hq, Ratio.value, Ratio.value,
          Nat.cast_mul]
        congr 1
        rw [div_inv_eq_mul, div_mul_eq_mul_div]

theorem significand_bounds {place : ℕ} (h : ¬ place < fractionCount) :
    2 ^ 52 ≤ significand place ∧ significand place < 2 ^ 53 := by
  rw [significand, if_neg h]
  have hmod := Nat.mod_lt place (show 0 < fractionCount by decide)
  simp only [fractionCount] at hmod ⊢
  omega

/-- The value of a magnitude lies nearest to its own place. -/
theorem nearest_magnitude (place : ℕ) : nearest (magnitude place).value = place := by
  rw [magnitude, ofScaled_value]
  by_cases h : place < fractionCount
  · have hscale : scale place = -1074 := by rw [scale, if_pos h]
    have hsignificand : significand place = place := by rw [significand, if_pos h]
    rw [hscale, hsignificand]
    by_cases hzero : place = 0
    · rw [hzero, Nat.cast_zero, zero_mul, nearest, if_pos rfl]
    · have hne : (place : ℚ) * (2 : ℚ) ^ (-1074 : ℤ) ≠ 0 :=
        mul_ne_zero (by exact_mod_cast hzero) (by positivity)
      have hlog := log_mul_zpow (Nat.log2_self_le hzero) Nat.lt_log2_self (-1074)
      have hlen : place.log2 < 52 := (Nat.log2_lt hzero).mpr (by simpa [fractionCount] using h)
      have hspacing : spacing ((place : ℚ) * (2 : ℚ) ^ (-1074 : ℤ)) = -1074 := by
        rw [spacing, hlog]
        omega
      rw [nearest, if_neg hne, hspacing, mul_div_assoc, div_self (by positivity), mul_one,
        roundValue_natCast]
      simp
  · obtain ⟨hlow, hhigh⟩ := significand_bounds h
    have hscale : scale place = (place / fractionCount : ℕ) - 1075 := by rw [scale, if_neg h]
    have hone : 1 ≤ place / fractionCount :=
      (Nat.one_le_div_iff (by decide)).mpr (Nat.le_of_not_lt h)
    have hsignificand : significand place = fractionCount + place % fractionCount := by
      rw [significand, if_neg h]
    have hne : (significand place : ℚ) * (2 : ℚ) ^ scale place ≠ 0 :=
      mul_ne_zero (by exact_mod_cast (show significand place ≠ 0 by omega)) (by positivity)
    have hlog := log_mul_zpow hlow hhigh (scale place)
    have hspacing : spacing ((significand place : ℚ) * (2 : ℚ) ^ scale place) =
        scale place := by
      rw [spacing, hlog]
      omega
    rw [nearest, if_neg hne, hspacing, mul_div_assoc, div_self (by positivity), mul_one,
      roundValue_natCast, hsignificand, hscale]
    have hdivmod := Nat.div_add_mod place fractionCount
    have htoNat : ((place / fractionCount : ℕ) - 1075 + 1074 : ℤ).toNat =
        place / fractionCount - 1 := by omega
    rw [htoNat, Nat.sub_mul, mul_comm (place / fractionCount)]
    have hle : 1 * fractionCount ≤ fractionCount * (place / fractionCount) := by
      rw [mul_comm]
      exact Nat.mul_le_mul_left _ hone
    omega

end Rollup.Binary64
