import Rollup.Binary64.Decimal
import Rollup.Dict
import Rollup.Word

/-!
# JSON values

An object holds its members in ascending key order, so that two texts that
differ only in the order of their members denote one value; `Json.ofMembers`
and the reader both see to it. Integers and doubles are different values even
where they denote the same number, because a text keeps them apart.
-/

namespace Rollup

/-- A JSON value. -/
inductive Json
  | null
  | bool (value : Bool)
  | int (value : Int)
  | double (value : Binary64)
  | string (text : String)
  | array (items : List Json)
  | object (members : List (String × Json))

namespace Json

instance : Inhabited Json := ⟨.null⟩

/-- The object of a list of members, the last of a key winning. -/
def ofMembers (members : List (String × Json)) : Json := .object (Entries.ofPairs members)

/-- A double as a value. Infinities and `nan` have no JSON form and become `null`. -/
def ofBinary64 : Binary64 → Json
  | .finite negative place => .double (.finite negative place)
  | _ => .null

/-- An integer of one machine word, or the double nearest to it when no word holds it. -/
def ofInt (n : Int) : Json :=
  if -Word.signedBound ≤ n ∧ n < Word.unsignedBound then .int n else ofBinary64 (.ofInt n)

/-- A text from its characters. -/
def ofChars (cs : List Char) : Json := .string (String.ofList cs)

/-- The members of an object. -/
def members? : Json → Option (List (String × Json))
  | .object members => some members
  | _ => none

/-- The items of an array. -/
def items? : Json → Option (List Json)
  | .array items => some items
  | _ => none

/-! ## Equality of values

Values are equal when they are written alike, except that the two zeros among
the doubles are one number. -/

mutual

/-- Whether two values are equal. -/
def same : Json → Json → Bool
  | .null, .null => true
  | .bool a, .bool b => a = b
  | .int a, .int b => a = b
  | .double a, .double b => a.sameNumber b
  | .string a, .string b => a = b
  | .array as, .array bs => sameItems as bs
  | .object as, .object bs => sameMembers as bs
  | _, _ => false

/-- Whether two arrays are equal, item by item. -/
def sameItems : List Json → List Json → Bool
  | [], [] => true
  | a :: as, b :: bs => same a b && sameItems as bs
  | _, _ => false

/-- Whether two objects are equal, member by member. -/
def sameMembers : List (String × Json) → List (String × Json) → Bool
  | [], [] => true
  | (j, a) :: as, (k, b) :: bs => j = k && same a b && sameMembers as bs
  | _, _ => false

end

end Json

end Rollup
