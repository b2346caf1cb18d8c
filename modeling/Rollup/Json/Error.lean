import Rollup.Json.Writer
import Rollup.Text.Quoted

/-!
# What can be wrong with a JSON text

Reading is one pass from left to right, and the first thing that is wrong is
the error, whether it is a fault of the text or a value of a type that the
place does not take.
-/

namespace Rollup.Json

/-- A part of a text that ends too early. -/
inductive Part
  | value
  | string
  | list
  | object
deriving DecidableEq, Repr

/-- What kind of value a place takes. -/
inductive Wanted
  | string
  | sequence
  | map
  | count
  | record (name : String)
deriving DecidableEq, Repr

/-- What was found where another kind of value was wanted. -/
inductive Found
  | null
  | bool (value : Bool)
  | int (value : Int)
  | double (value : Binary64)
  | string (text : String)
  | sequence
  | map
deriving DecidableEq

/-- Why a text cannot be read. -/
inductive ReadError
  /-- The text ends inside a part. -/
  | unfinished (part : Part)
  /-- No value starts here. -/
  | expectedValue
  /-- A word other than `true`, `false` and `null`. -/
  | expectedWord
  | expectedColon
  | expectedCommaOrBrace
  | expectedCommaOrBracket
  | keyNotString
  | trailingComma
  /-- Something follows the document. -/
  | trailingCharacters
  | invalidNumber
  | numberOutOfRange
  | invalidEscape
  /-- The escape of a leading surrogate is not followed by an escape. -/
  | unfinishedSurrogatePair
  /-- Surrogate escapes that make no pair. -/
  | loneSurrogate
  | controlCharacter
  /-- Too many arrays and objects inside each other. -/
  | tooDeep
  | wrongType (found : Found) (wanted : Wanted)
  | negativeCount (value : Int)
  | duplicateField (name : String)
  | missingField (name : String)
  /-- A record written as an array ends before element `length`. -/
  | wrongLength (length : Nat) (record : String) (fields : Nat)
deriving DecidableEq

namespace Part

def name : Part → String
  | value => "a value"
  | string => "a string"
  | list => "a list"
  | object => "an object"

end Part

namespace Wanted

def name : Wanted → String
  | string => "a string"
  | sequence => "a sequence"
  | map => "a map"
  | count => "usize"
  | record r => "struct " ++ r

end Wanted

namespace Found

def name : Found → String
  | null => "null"
  | bool true => "boolean \x60true\x60"
  | bool false => "boolean \x60false\x60"
  | int n => "integer \x60" ++ toString n ++ "\x60"
  | double x => "floating point \x60" ++ String.ofList (writeDouble x) ++ "\x60"
  | string s => "string " ++ Text.quote s
  | sequence => "sequence"
  | map => "map"

end Found

namespace ReadError

/-- The wording of an error. -/
def message : ReadError → String
  | unfinished part => "EOF while parsing " ++ part.name
  | expectedValue => "expected value"
  | expectedWord => "expected ident"
  | expectedColon => "expected \x60:\x60"
  | expectedCommaOrBrace => "expected \x60,\x60 or \x60\x7d\x60"
  | expectedCommaOrBracket => "expected \x60,\x60 or \x60]\x60"
  | keyNotString => "key must be a string"
  | trailingComma => "trailing comma"
  | trailingCharacters => "trailing characters"
  | invalidNumber => "invalid number"
  | numberOutOfRange => "number out of range"
  | invalidEscape => "invalid escape"
  | unfinishedSurrogatePair => "unexpected end of hex escape"
  | loneSurrogate => "lone leading surrogate in hex escape"
  | controlCharacter => "control character (\\u0000-\\u001F) found while parsing a string"
  | tooDeep => "recursion limit exceeded"
  | wrongType found wanted => "invalid type: " ++ found.name ++ ", expected " ++ wanted.name
  | negativeCount n => "invalid value: integer \x60" ++ toString n ++ "\x60, expected usize"
  | duplicateField name => "duplicate field \x60" ++ name ++ "\x60"
  | missingField name => "missing field \x60" ++ name ++ "\x60"
  | wrongLength length record fields =>
      "invalid length " ++ toString length ++ ", expected struct " ++ record ++ " with " ++
        toString fields ++ " elements"

end ReadError

end Rollup.Json
