import Rollup.Binary64.Basic

/-!
# Decimal text of binary64 values

A value is written with the fewest digits that read back as the same value, and
of several such decimals the nearest. Both facts are by construction: the
search below tries one digit, two digits and so on, looks at the two neighbours
of the value on each decimal grid, and keeps a neighbour only if it rounds to
the value. Should no grid up to 17 digits do, the exact expansion is taken, so
the result reads back without any appeal to a theorem about 17 digits.

Two layouts share the digits. `plain` is positional for every magnitude and is
the form inside identities and messages. `scientific` is the form in JSON. They
differ in one more thing: which of two equally near decimals they take.
-/

namespace Rollup.Binary64

/-- The decimal `coefficient · 10^exponent`. -/
structure Decimal where
  coefficient : Nat
  exponent : Int
deriving DecidableEq, Repr

namespace Decimal

/-- How many decimal digits a number has; zero has one. -/
def digitCount (n : Nat) : Nat := (Nat.toDigits 10 n).length

/-- Moves up to `n` zeros from the end of the coefficient into the exponent. -/
def moveZeros (d : Decimal) : Nat → Decimal
  | 0 => d
  | n + 1 =>
      if d.coefficient ≠ 0 ∧ d.coefficient % 10 = 0 then
        moveZeros ⟨d.coefficient / 10, d.exponent + 1⟩ n
      else d

/-- The same decimal without zeros at the end of the coefficient. -/
def strip (d : Decimal) : Decimal := d.moveZeros (digitCount d.coefficient)

/-- The datum nearest to a decimal with a sign. Powers of ten far outside the finite range are
decided by their size alone. -/
def toBinary64 (negative : Bool) (d : Decimal) : Binary64 :=
  let top : Int := digitCount d.coefficient + d.exponent
  if d.coefficient = 0 ∨ top < -330 then ofPlace negative 0
  else if 330 < top then .infinite negative
  else ofRatio negative (.ofDecimal d.coefficient d.exponent)

end Decimal

/-- The greatest `e` with `10^e` at most the ratio, which is positive. -/
def floorLog10 (r : Ratio) : Int :=
  if r.den ≤ r.num then Decimal.digitCount (r.num / r.den) - 1
  else -(Decimal.digitCount ((r.den + r.num - 1) / r.num - 1) : Int)

/-- Which of two equally near decimals is taken. -/
inductive Tie
  | upward
  | toEven
deriving DecidableEq, Repr

/-- The whole number of steps `10^k` below a ratio, and how the rest compares with half a step. -/
def gridBelow (r : Ratio) (k : Int) : Nat × Ordering :=
  let num := if 0 ≤ k then r.num else r.num * Nat.pow 10 (-k).toNat
  let den := if 0 ≤ k then r.den * Nat.pow 10 k.toNat else r.den
  (num / den, compare (2 * (num % den)) den)

/-- The decimal of `digits` digits that reads back as the magnitude and lies nearest to it. -/
def onGrid (tie : Tie) (place : Nat) (digits : Nat) : Option Decimal :=
  let r := magnitude place
  let k := floorLog10 r + 1 - digits
  let (below, rest) := gridBelow r k
  let low : Decimal := ⟨below, k⟩
  let high : Decimal := ⟨below + 1, k⟩
  let readsBack (d : Decimal) : Bool := nearestPlace (.ofDecimal d.coefficient d.exponent) = place
  let highFirst : Bool := match rest with
    | .lt => false
    | .gt => true
    | .eq => match tie with
      | .upward => true
      | .toEven => below % 2 = 1
  let (first, second) := if highFirst then (high, low) else (low, high)
  if readsBack first then some first
  else if readsBack second then some second
  else none

/-- The exact decimal expansion of a magnitude: halves are fives a place further on. -/
def exactDecimal (place : Nat) : Decimal :=
  let m := significand place
  let e := scale place
  if 0 ≤ e then ⟨m * Nat.pow 2 e.toNat, 0⟩ else ⟨m * Nat.pow 5 (-e).toNat, e⟩

/-- The shortest decimal that reads back as a positive magnitude. -/
def shortest (tie : Tie) (place : Nat) : Decimal :=
  Decimal.strip <|
    ((List.range 17).findSome? fun n => onGrid tie place (n + 1)).getD (exactDecimal place)

/-! ## Layouts -/

/-- Digits with the decimal point where the exponent puts it, and zeros up to it. -/
def positional (digits : List Char) (exponent : Int) : List Char :=
  if 0 ≤ exponent then digits ++ List.replicate exponent.toNat '0'
  else
    let places := (-exponent).toNat
    if places < digits.length then
      digits.take (digits.length - places) ++ '.' :: digits.drop (digits.length - places)
    else '0' :: '.' :: List.replicate (places - digits.length) '0' ++ digits

/-- The sign in front of a text. -/
def signed (negative : Bool) (text : List Char) : List Char :=
  if negative then '-' :: text else text

/-- Positional for every magnitude, and without a point on whole numbers. Of two equally near
decimals the larger is taken. -/
def plain : Binary64 → List Char
  | .nan => ['N', 'a', 'N']
  | .infinite negative => signed negative ['i', 'n', 'f']
  | .finite negative place =>
      signed negative <|
        if place.val = 0 then ['0']
        else
          let d := shortest .upward place
          positional (Nat.toDigits 10 d.coefficient) d.exponent

/-- Positional from `10^-5` up to `10^16`, with `.0` on whole numbers, and with a power of ten
outside. Of two equally near decimals the even one is taken. Only finite values have this form. -/
def scientific (negative : Bool) (place : Nat) : List Char :=
  signed negative <|
    if place = 0 then ['0', '.', '0']
    else
      let d := shortest .toEven place
      let digits := Nat.toDigits 10 d.coefficient
      let power : Int := digits.length + d.exponent - 1
      if -5 ≤ power ∧ power < 16 then
        positional digits d.exponent ++ if 0 ≤ d.exponent then ['.', '0'] else []
      else
        digits.take 1 ++ (if digits.length = 1 then [] else '.' :: digits.drop 1) ++
          'e' :: (if power < 0 then '-' else '+') :: Nat.toDigits 10 power.natAbs

/-! ## Reading -/

/-- The digits a text starts with, and what follows them. -/
def spanDigits (cs : List Char) : List Char × List Char := cs.span Char.isDigit

/-- The value of `whole.fraction · 10^exponent`, where `whole` and `fraction` are digits. -/
def ofDigits (negative : Bool) (whole fraction : List Char) (exponent : Int) : Binary64 :=
  Decimal.toBinary64 negative
    ⟨Nat.ofDigitChars 10 (whole ++ fraction) 0, exponent - fraction.length⟩

/-- The exponent of a number, where the text after its digits has the form of one. -/
def exponent? : List Char → Option Int
  | [] => some 0
  | mark :: rest =>
      if mark = 'e' ∨ mark = 'E' then
        let (negative, digits) : Bool × List Char := match rest with
          | '-' :: r => (true, r)
          | '+' :: r => (false, r)
          | r => (false, r)
        if digits ≠ [] ∧ digits.all Char.isDigit then
          let n := Nat.ofDigitChars 10 digits 0
          some (if negative then -n else n)
        else none
      else none

/-- Reads an unsigned number: a word for infinity or `nan`, or digits with an optional point and an
optional exponent, at least one digit standing before the exponent. -/
def ofUnsigned? (negative : Bool) (cs : List Char) : Option Binary64 :=
  let word := cs.map Char.toLower
  if word = "nan".toList then some .nan
  else if word = "inf".toList ∨ word = "infinity".toList then some (.infinite negative)
  else
    let (whole, rest) := spanDigits cs
    let (fraction, rest) := match rest with
      | '.' :: r => spanDigits r
      | r => ([], r)
    if whole = [] ∧ fraction = [] then none
    else (exponent? rest).map (ofDigits negative whole fraction)

/-- Reads a number with an optional sign. -/
def ofText? (s : String) : Option Binary64 :=
  match s.toList with
  | '-' :: cs => ofUnsigned? true cs
  | '+' :: cs => ofUnsigned? false cs
  | cs => ofUnsigned? false cs

/-- One tenth takes one digit, and ten to the 21st has no exponent in the plain layout. -/
example : ((ofText? "0.1").map plain = some "0.1".toList) ∧
    (ofText? "1e21").map plain = some "1000000000000000000000".toList := by decide +kernel

end Rollup.Binary64
