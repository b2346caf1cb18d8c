import Rollup.Json.Writer

/-!
# Properties

What is known about an event besides its type and its count: numbers and texts
under names. A JSON value of another kind is kept as its text, and `null` is
not kept at all.
-/

namespace Rollup

/-- The value of a property. -/
inductive PropValue
  | number (value : Binary64)
  | text (value : String)
deriving DecidableEq

namespace PropValue

/-- Whether a value carries information. The empty text and the text `false` do not. -/
def isTruthy : PropValue → Bool
  | number _ => true
  | text s => s ≠ "" && s ≠ "false"

/-- The value of a property that is given in JSON. -/
def ofJson? : Json → Option PropValue
  | .null => none
  | .int n => some (number (.ofInt n))
  | .double x => some (number x)
  | .string s => some (text s)
  | .bool true => some (text "true")
  | .bool false => some (text "false")
  | value => some (text value.render)

/-- The value in JSON. -/
def toJson : PropValue → Json
  | number x => .ofBinary64 x
  | text s => .string s

/-- The value as a text, in which a number is positional. -/
def display : PropValue → List Char
  | number x => x.plain
  | text s => s.toList

/-- Equality of values: numbers are compared as numbers, and no number equals a text. -/
def same : PropValue → PropValue → Bool
  | number x, number y => x.sameNumber y
  | text s, text t => s = t
  | _, _ => false

/-- The number that is not finite, if the value is one. -/
def nonFinite? : PropValue → Option Binary64
  | number x => if x.isFinite then none else some x
  | text _ => none

end PropValue

/-- Properties, in ascending order of their keys. -/
abbrev Properties := Dict PropValue

namespace Properties

/-- The properties in an object; members that are `null` are left out. -/
def ofMembers (members : List (String × Json)) : Properties :=
  .ofPairs <| members.filterMap fun (key, value) => (PropValue.ofJson? value).map (key, ·)

/-- Whether two lists of entries are equal, entry by entry. -/
def sameEntries : Entries PropValue → Entries PropValue → Bool
  | [], [] => true
  | (j, v) :: ps, (k, w) :: qs => j = k && v.same w && sameEntries ps qs
  | _, _ => false

/-- Equality of properties: the same keys with equal values. -/
def same (ps qs : Properties) : Bool := sameEntries ps.entries qs.entries

/-- The text that identity is taken from: every key and value, in order. -/
def identityText (props : Properties) : List Char :=
  props.entries.flatMap fun (key, value) => key.toList ++ '=' :: (value.display ++ ['&'])

end Properties

end Rollup
