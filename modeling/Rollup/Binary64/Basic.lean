/-!
# Binary floating point, 64 bits

The data of the binary64 format as exact mathematics. Measured values are only
ever read, rounded once, compared and written, so no floating-point operation
of the machine is needed, and a law about a value is a law about natural
numbers.

The non-negative finite values are numbered in ascending order: zero is number
0, the least positive value number 1, and so on without a gap. The number is
the bit pattern without its sign, rounding is a monotone map into the numbers,
and overflow is a number past the last.
-/

namespace Rollup

/-- How many fractions there are to an exponent: 2 to the 52nd. -/
def fractionCount : Nat := 4503599627370496

/-- How many finite magnitudes there are: 2047 exponents with all their fractions. -/
def magnitudeCount : Nat := 2047 * fractionCount

/-- A binary64 datum. The two zeros differ in their sign; there is one `nan`. -/
inductive Binary64
  /-- A finite value: its sign and the place of its magnitude among all finite magnitudes. -/
  | finite (negative : Bool) (place : Fin magnitudeCount)
  /-- An infinity. -/
  | infinite (negative : Bool)
  /-- No number. -/
  | nan
deriving DecidableEq

namespace Binary64

/-- The significand of a magnitude. Below `fractionCount` the spacing is that of the least positive
value. -/
def significand (place : Nat) : Nat :=
  if place < fractionCount then place else fractionCount + place % fractionCount

/-- The power of two that the significand is scaled by. -/
def scale (place : Nat) : Int :=
  if place < fractionCount then -1074 else (place / fractionCount : Nat) - 1075

/-- A nonnegative rational as numerator and denominator. -/
structure Ratio where
  num : Nat
  den : Nat

/-- `n · 2^e`. -/
def Ratio.ofScaled (n : Nat) (e : Int) : Ratio :=
  if 0 ≤ e then ⟨n * Nat.pow 2 e.toNat, 1⟩ else ⟨n, Nat.pow 2 (-e).toNat⟩

/-- `n · 10^e`. -/
def Ratio.ofDecimal (n : Nat) (e : Int) : Ratio :=
  if 0 ≤ e then ⟨n * Nat.pow 10 e.toNat, 1⟩ else ⟨n, Nat.pow 10 (-e).toNat⟩

/-- The exact value of a magnitude. -/
def magnitude (place : Nat) : Ratio := .ofScaled (significand place) (scale place)

/-- The whole number nearest to a ratio, the even one of two equally near. -/
def roundHalfEven (r : Ratio) : Nat :=
  let whole := r.num / r.den
  let rest := r.num % r.den
  if 2 * rest < r.den then whole
  else if r.den < 2 * rest then whole + 1
  else whole + whole % 2

/-- The greatest `e` with `2^e` at most the ratio, which is positive. -/
def floorLog2 (r : Ratio) : Int :=
  let guess : Int := (r.num.log2 : Int) - r.den.log2
  let below : Bool := if 0 ≤ guess then r.num < r.den * Nat.pow 2 guess.toNat
    else r.num * Nat.pow 2 (-guess).toNat < r.den
  if below then guess - 1 else guess

/-- The place of the magnitude nearest to a ratio, ties to even. Past the last place, the ratio is
too large for a finite value.

The spacing at the ratio is `2^q`, with `q = -1074` at the bottom and 52 below the leading bit
elsewhere. Counting in units of `2^q` gives the significand, and a significand that rounds up to
`2^53` lands on the first place of the next exponent by itself. -/
def nearestPlace (r : Ratio) : Nat :=
  if r.num = 0 then 0
  else
    let q : Int := max (floorLog2 r - 52) (-1074)
    let units : Ratio :=
      if 0 ≤ q then ⟨r.num, r.den * Nat.pow 2 q.toNat⟩ else ⟨r.num * Nat.pow 2 (-q).toNat, r.den⟩
    (q + 1074).toNat * fractionCount + roundHalfEven units

/-- The datum with a given sign and place. -/
def ofPlace (negative : Bool) (place : Nat) : Binary64 :=
  if h : place < magnitudeCount then .finite negative ⟨place, h⟩ else .infinite negative

/-- The datum nearest to a ratio with a sign. -/
def ofRatio (negative : Bool) (r : Ratio) : Binary64 := ofPlace negative (nearestPlace r)

/-- The datum nearest to a whole number. -/
def ofInt (n : Int) : Binary64 := ofRatio (n < 0) ⟨n.natAbs, 1⟩

/-- Whether a datum is neither infinite nor `nan`. -/
def isFinite : Binary64 → Bool
  | .finite .. => true
  | _ => false

/-- Equality of numbers: the two zeros are one number, and `nan` is none. -/
def sameNumber : Binary64 → Binary64 → Bool
  | .finite a x, .finite b y => x = y && (a = b || x.val = 0)
  | .infinite a, .infinite b => a = b
  | _, _ => false

/-- Zero, one and minus one sit where they should. -/
example : ofInt 0 = ofPlace false 0 ∧ ofInt 1 = ofPlace false (1023 * fractionCount) ∧
    ofInt (-1) = ofPlace true (1023 * fractionCount) := by decide +kernel

end Binary64

end Rollup
