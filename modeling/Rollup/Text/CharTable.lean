/-!
# Character classes as ranges

A character property is data: an ascending list of closed ranges of code
points. Membership walks the list and stops at the first range that starts
above the point, so a common letter is decided after a few steps.
-/

namespace Rollup.Text

/-- Closed ranges of code points, ascending and apart from each other. -/
abbrev CharTable := List (Nat × Nat)

namespace CharTable

/-- Whether a code point lies in one of the ranges. -/
def containsCode : CharTable → Nat → Bool
  | [], _ => false
  | (low, high) :: rest, n =>
      if n < low then false
      else if n ≤ high then true
      else containsCode rest n

/-- Whether a character lies in one of the ranges. -/
def contains (table : CharTable) (c : Char) : Bool := table.containsCode c.toNat

end CharTable

end Rollup.Text
