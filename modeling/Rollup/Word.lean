/-!
# Machine words

The bounds of the integers that one word of 64 bits holds. Counts and the
integers of JSON stay within them; a number past them is refused or becomes a
double.
-/

namespace Rollup.Word

/-- The first number that an unsigned word does not hold: 2 to the 64th. -/
def unsignedBound : Nat := 18446744073709551616

/-- The first number that a signed word does not hold: 2 to the 63rd. -/
def signedBound : Nat := 9223372036854775808

/-- The number, if a signed word holds it. -/
def signed? (n : Nat) : Option Nat := if n < signedBound then some n else none

end Rollup.Word
