import Rollup.Json.Reader

/-!
# Skipping a JSON value

A member that nobody asked for is passed over, but it still has to be JSON. The
skipper keeps nothing of the value: it asks of a string only that its escapes
are spelled right, of a number only its digits, and it holds the arrays and
objects that are open in a list, so that nesting has no limit here.
-/

namespace Rollup.Json

/-- An array or object that is still open. -/
inductive Frame
  | list
  | object
deriving DecidableEq, Repr

namespace Frame

/-- The character that closes it. -/
def close : Frame → Char
  | list => ']'
  | object => '\x7d'

/-- The part that is unfinished while it is open. -/
def part : Frame → Part
  | list => .list
  | object => .object

/-- The error for a character that neither separates nor closes. -/
def separatorError : Frame → ReadError
  | list => .expectedCommaOrBracket
  | object => .expectedCommaOrBrace

end Frame

/-- The characters after a string, from after its opening quote. -/
def skipCharacters : Nat → List Char → Except ReadError (List Char)
  | 0, _ => .error (.unfinished .string)
  | _ + 1, [] => .error (.unfinished .string)
  | fuel + 1, c :: rest =>
      if c = '"' then .ok rest
      else if c = '\\' then
        match rest with
        | [] => .error (.unfinished .string)
        | d :: rest =>
            if d = 'u' then do
              let (_, rest) ← readHex rest
              skipCharacters fuel rest
            else if d ∈ ['"', '\\', '/', 'b', 'f', 'n', 'r', 't'] then skipCharacters fuel rest
            else .error .invalidEscape
      else if c.toNat < 0x20 then .error .controlCharacter
      else skipCharacters fuel rest

/-- `skipCharacters`, with rounds enough for the text. -/
def skipString (cs : List Char) : Except ReadError (List Char) :=
  skipCharacters (cs.length + 1) cs

/-- The characters after the digits that have to stand here. -/
def skipDigits (cs : List Char) : Except ReadError (List Char) :=
  match Binary64.spanDigits cs with
  | ([], _) => .error .invalidNumber
  | (_ :: _, rest) => .ok rest

/-- The characters after an exponent, if there is one. -/
def skipExponent : List Char → Except ReadError (List Char)
  | [] => .ok []
  | mark :: rest =>
      if mark = 'e' ∨ mark = 'E' then
        match rest with
        | [] => skipDigits []
        | sign :: digits => skipDigits (if sign = '+' ∨ sign = '-' then digits else rest)
      else .ok (mark :: rest)

/-- The characters after a number, from after its sign. -/
def skipNumber (cs : List Char) : Except ReadError (List Char) :=
  match Binary64.spanDigits cs with
  | ([], _) => .error .invalidNumber
  | (first :: more, after) =>
      if first = '0' ∧ more ≠ [] then .error .invalidNumber
      else match after with
        | '.' :: rest => skipDigits rest >>= skipExponent
        | _ => skipExponent after

/-- The characters after a value that is neither an array nor an object and starts with `c`. -/
def skipScalar (c : Char) (rest : List Char) : Except ReadError (List Char) :=
  if c = 'n' then readWord ['u', 'l', 'l'] rest
  else if c = 't' then readWord ['r', 'u', 'e'] rest
  else if c = 'f' then readWord ['a', 'l', 's', 'e'] rest
  else if c = '-' then skipNumber rest
  else if c.isDigit then skipNumber (c :: rest)
  else if c = '"' then skipString rest
  else .error .expectedValue

/-- The characters where the next value of an open array or object starts: in an object, after a
key and its colon. -/
def skipKey (frame : Frame) (cs : List Char) : Except ReadError (List Char) :=
  match frame with
  | .list => .ok cs
  | .object =>
      match skipBlanks cs with
      | [] => .error (.unfinished .object)
      | c :: rest =>
          if c = '"' then skipString rest >>= readColon else .error .keyNotString

mutual

/-- The characters after a value and after all that is open around it. -/
def skipOpen : Nat → List Frame → List Char → Except ReadError (List Char)
  | 0, _, _ => .error (.unfinished .value)
  | fuel + 1, frames, cs =>
      match skipBlanks cs with
      | [] => .error (.unfinished .value)
      | c :: rest =>
          if c = '[' then skipAfter fuel false (.list :: frames) rest
          else if c = '\x7b' then skipAfter fuel false (.object :: frames) rest
          else skipScalar c rest >>= skipAfter fuel true frames

/-- The characters after all that is open, from after one of its values (`comma`) or from after an
opening bracket or brace. -/
def skipAfter : Nat → Bool → List Frame → List Char → Except ReadError (List Char)
  | _, _, [], cs => .ok cs
  | 0, _, frame :: _, _ => .error (.unfinished frame.part)
  | fuel + 1, comma, frame :: outer, cs =>
      match skipBlanks cs with
      | [] => .error (.unfinished frame.part)
      | c :: rest =>
          if c = frame.close then skipAfter fuel true outer rest
          else if comma then
            if c = ',' then skipKey frame rest >>= skipOpen fuel (frame :: outer)
            else .error frame.separatorError
          else skipKey frame (c :: rest) >>= skipOpen fuel (frame :: outer)

end

/-- The characters after one value. -/
def skipValue (cs : List Char) : Except ReadError (List Char) :=
  skipOpen (2 * cs.length + 2) [] cs

end Rollup.Json
