import Rollup.Json.Error
import Rollup.Text.Split

/-!
# Reading JSON

Every reader takes the characters that are left and answers with what it read
and the characters after it, or with the first error. Readers of a place that
takes one kind of value only (a string, a count, a record) are built from the
same steps as the reader of any value, so an error of type comes up exactly
where the value starts, before faults further on.

Arrays and objects are one loop each, over the reader of what stands in them.
Nesting recurses on the room that is left for it, so the limit on nesting is
also what the recursion ends by; the loops end by the length of the text, since
each round reads at least one character.

Two things are assumed. A number that is no integer of a word becomes the double
nearest to it, to the last bit, where a reader that prefers speed may end at a
neighbour. And an error says what is wrong, but not at which line and column.
-/

namespace Rollup.Json

/-- What was read and the characters after it. -/
abbrev Cut (α : Type) := α × List Char

/-- A reader of the characters that are left. -/
abbrev Reader (α : Type) := List Char → Except ReadError (Cut α)

/-- How deep arrays and objects may stand inside each other, less one. -/
def nestingRoom : Nat := 128

/-- Space, tab, line feed and carriage return. -/
def isBlank (c : Char) : Bool := c = ' ' || c = '\t' || c = '\n' || c = '\r'

/-- The characters from the first that is not blank. -/
def skipBlanks (cs : List Char) : List Char := cs.dropWhile isBlank

/-- The characters after a word that has to stand here. -/
def readWord : List Char → List Char → Except ReadError (List Char)
  | [], cs => .ok cs
  | _ :: _, [] => .error (.unfinished .value)
  | w :: ws, c :: cs => if c = w then readWord ws cs else .error .expectedWord

/-! ## Numbers -/

/-- The value of an integer: a word holds it, or the nearest double has to do. Minus zero is the
double of that sign. -/
def integerValue (negative : Bool) (n : Nat) : Json :=
  if negative then
    if n = 0 ∨ Word.signedBound < n then .double (Binary64.Decimal.toBinary64 true ⟨n, 0⟩) else .int (-n)
  else
    if n < Word.unsignedBound then .int n else .double (Binary64.Decimal.toBinary64 false ⟨n, 0⟩)

/-- The double of a number with a fraction or an exponent, or an integer that no word holds. -/
def finiteDouble (x : Binary64) : Except ReadError Json :=
  if x.isFinite then .ok (.double x) else .error .numberOutOfRange

/-- Ends a number after its digits: an exponent may follow. -/
def readExponent (negative : Bool) (whole fraction cs : List Char) : Except ReadError (Cut Json) :=
  let plain : Except ReadError (Cut Json) :=
    if fraction = [] then
      match integerValue negative (Nat.ofDigitChars 10 whole 0) with
      | .double x => do return (← finiteDouble x, cs)
      | n => .ok (n, cs)
    else do return (← finiteDouble (.ofDigits negative whole fraction 0), cs)
  match cs with
  | [] => plain
  | mark :: rest =>
      if mark = 'e' ∨ mark = 'E' then
        let (down, rest) : Bool × List Char := match rest with
          | '+' :: r => (false, r)
          | '-' :: r => (true, r)
          | r => (false, r)
        let (digits, after) := Binary64.spanDigits rest
        if rest = [] then .error (.unfinished .value)
        else if digits = [] then .error .invalidNumber
        else
          let power : Int := Nat.ofDigitChars 10 digits 0
          let power := if down then -power else power
          do return (← finiteDouble (.ofDigits negative whole fraction power), after)
      else plain

/-- A number, from after its sign. No zero stands in front of another digit, and digits stand on
both sides of a point. -/
def readNumber (negative : Bool) (cs : List Char) : Except ReadError (Cut Json) :=
  let (whole, after) := Binary64.spanDigits cs
  match whole with
  | [] => .error (if cs = [] then .unfinished .value else .invalidNumber)
  | first :: more =>
      if first = '0' ∧ more ≠ [] then .error .invalidNumber
      else match after with
        | '.' :: rest =>
            let (fraction, after) := Binary64.spanDigits rest
            if fraction = [] then
              .error (if rest = [] then .unfinished .value else .invalidNumber)
            else readExponent negative whole fraction after
        | _ => readExponent negative whole [] after

/-! ## Strings -/

/-- The value of a hexadecimal digit. -/
def hexValue? (c : Char) : Option Nat :=
  if '0' ≤ c ∧ c ≤ '9' then some (c.toNat - '0'.toNat)
  else if 'a' ≤ c ∧ c ≤ 'f' then some (c.toNat - 'a'.toNat + 10)
  else if 'A' ≤ c ∧ c ≤ 'F' then some (c.toNat - 'A'.toNat + 10)
  else none

/-- The number of four hexadecimal digits. Whether the text ends too early is a matter of bytes. -/
def readHex (cs : List Char) : Except ReadError (Cut Nat) :=
  let fault : ReadError := if 4 ≤ Text.byteLength cs then .invalidEscape else .unfinished .string
  match cs with
  | a :: b :: c :: d :: rest =>
      match hexValue? a, hexValue? b, hexValue? c, hexValue? d with
      | some a, some b, some c, some d => .ok (((a * 16 + b) * 16 + c) * 16 + d, rest)
      | _, _, _, _ => .error fault
  | _ => .error fault

/-- Whether a code unit starts a surrogate pair. -/
def isLeading (n : Nat) : Bool := 0xD800 ≤ n && n ≤ 0xDBFF

/-- Whether a code unit ends a surrogate pair. -/
def isTrailing (n : Nat) : Bool := 0xDC00 ≤ n && n ≤ 0xDFFF

/-- The second half of a surrogate pair, from after the first. -/
def readTrailing (leading : Nat) : Reader Char
  | [] => .error (.unfinished .string)
  | '\\' :: [] => .error (.unfinished .string)
  | '\\' :: 'u' :: cs => do
      let (n, rest) ← readHex cs
      if isTrailing n then
        return (Char.ofNat (0x10000 + (leading - 0xD800) * 0x400 + (n - 0xDC00)), rest)
      else throw .loneSurrogate
  | _ => .error .unfinishedSurrogatePair

/-- The character of an escape, from after the backslash. -/
def readEscape : Reader Char
  | [] => .error (.unfinished .string)
  | '"' :: rest => .ok ('"', rest)
  | '\\' :: rest => .ok ('\\', rest)
  | '/' :: rest => .ok ('/', rest)
  | 'b' :: rest => .ok ('\x08', rest)
  | 'f' :: rest => .ok ('\x0c', rest)
  | 'n' :: rest => .ok ('\n', rest)
  | 'r' :: rest => .ok ('\r', rest)
  | 't' :: rest => .ok ('\t', rest)
  | 'u' :: cs => do
      let (n, rest) ← readHex cs
      if isTrailing n then throw .loneSurrogate
      else if isLeading n then readTrailing n rest
      else return (Char.ofNat n, rest)
  | _ => .error .invalidEscape

/-- The characters of a string up to its closing quote. -/
def readCharacters : Nat → Reader (List Char)
  | 0, _ => .error (.unfinished .string)
  | _ + 1, [] => .error (.unfinished .string)
  | fuel + 1, c :: rest =>
      if c = '"' then .ok ([], rest)
      else if c = '\\' then do
        let (d, rest) ← readEscape rest
        let (ds, rest) ← readCharacters fuel rest
        return (d :: ds, rest)
      else if c.toNat < 0x20 then .error .controlCharacter
      else do
        let (ds, rest) ← readCharacters fuel rest
        return (c :: ds, rest)

/-- A string, from after its opening quote. -/
def readString (cs : List Char) : Except ReadError (Cut String) := do
  let (text, rest) ← readCharacters (cs.length + 1) cs
  return (String.ofList text, rest)

/-! ## Arrays and objects -/

/-- The characters after the colon that has to follow a key. -/
def readColon (cs : List Char) : Except ReadError (List Char) :=
  match skipBlanks cs with
  | [] => .error (.unfinished .object)
  | c :: rest => if c = ':' then .ok rest else .error .expectedColon

/-- The items of an array up to its closing bracket, each read into what the items before it
left. -/
def readItems {σ : Type} (item : σ → Reader σ) : Nat → Bool → σ → Reader σ
  | 0, _, _, _ => .error (.unfinished .list)
  | fuel + 1, first, acc, cs =>
      match skipBlanks cs with
      | [] => .error (.unfinished .list)
      | c :: rest =>
          if c = ']' then .ok (acc, rest)
          else if first then do
            let (acc, rest) ← item acc (c :: rest)
            readItems item fuel false acc rest
          else if c = ',' then
            match skipBlanks rest with
            | [] => .error (.unfinished .value)
            | d :: rest =>
                if d = ']' then .error .trailingComma
                else do
                  let (acc, rest) ← item acc (d :: rest)
                  readItems item fuel false acc rest
          else .error .expectedCommaOrBracket

/-- The members of an object up to its closing brace. The reader of a member gets its key and the
characters from after the key, colon included. -/
def readMembers {σ : Type} (member : σ → String → Reader σ) :
    Nat → Bool → σ → Reader σ
  | 0, _, _, _ => .error (.unfinished .object)
  | fuel + 1, first, acc, cs =>
      match skipBlanks cs with
      | [] => .error (.unfinished .object)
      | c :: rest =>
          if c = '\x7d' then .ok (acc, rest)
          else if first then
            if c = '"' then do
              let (key, rest) ← readString rest
              let (acc, rest) ← member acc key rest
              readMembers member fuel false acc rest
            else .error .keyNotString
          else if c = ',' then
            match skipBlanks rest with
            | [] => .error (.unfinished .value)
            | d :: rest =>
                if d = '"' then do
                  let (key, rest) ← readString rest
                  let (acc, rest) ← member acc key rest
                  readMembers member fuel false acc rest
                else if d = '\x7d' then .error .trailingComma
                else .error .keyNotString
          else .error .expectedCommaOrBrace

/-- An array, from after its opening bracket. -/
def readArray {σ : Type} (item : σ → Reader σ) (empty : σ) (cs : List Char) :
    Except ReadError (Cut σ) :=
  readItems item (cs.length + 1) true empty cs

/-- An object, from after its opening brace. -/
def readObject {σ : Type} (member : σ → String → Reader σ) (empty : σ)
    (cs : List Char) : Except ReadError (Cut σ) :=
  readMembers member (cs.length + 1) true empty cs

/-- A value of any kind, with room for so many arrays and objects inside each other. -/
def readValue : Nat → Reader Json
  | 0, _ => .error .tooDeep
  | room + 1, cs =>
      match skipBlanks cs with
      | [] => .error (.unfinished .value)
      | c :: rest =>
          if c = 'n' then do return (.null, ← readWord ['u', 'l', 'l'] rest)
          else if c = 't' then do return (.bool true, ← readWord ['r', 'u', 'e'] rest)
          else if c = 'f' then do return (.bool false, ← readWord ['a', 'l', 's', 'e'] rest)
          else if c = '-' then readNumber true rest
          else if c.isDigit then readNumber false (c :: rest)
          else if c = '"' then do
            let (text, rest) ← readString rest
            return (.string text, rest)
          else if c = '[' then
            if room = 0 then .error .tooDeep
            else do
              let (items, rest) ← readArray
                (fun items cs => do
                  let (value, rest) ← readValue room cs
                  return (value :: items, rest))
                [] rest
              return (.array items.reverse, rest)
          else if c = '\x7b' then
            if room = 0 then .error .tooDeep
            else do
              let (members, rest) ← readObject
                (fun members key cs => do
                  let (value, rest) ← readValue room (← readColon cs)
                  return (Entries.insert key value members, rest))
                ([] : Entries Json) rest
              return (.object members, rest)
          else .error .expectedValue

/-! ## Places that take one kind of value -/

/-- The error for a value of another kind than wanted. The value is read as far as the error has to
show it, and a fault met on the way comes first. -/
def wrongTypeAt (wanted : Wanted) : List Char → ReadError
  | [] => .unfinished .value
  | c :: rest =>
      let shown (word : List Char) (found : Found) : ReadError :=
        match readWord word rest with
        | .ok _ => .wrongType found wanted
        | .error e => e
      let number (read : Except ReadError (Cut Json)) : ReadError :=
        match read with
        | .ok (.int n, _) => .wrongType (.int n) wanted
        | .ok (.double x, _) => .wrongType (.double x) wanted
        | .ok _ => .expectedValue
        | .error e => e
      if c = 'n' then shown ['u', 'l', 'l'] .null
      else if c = 't' then shown ['r', 'u', 'e'] (.bool true)
      else if c = 'f' then shown ['a', 'l', 's', 'e'] (.bool false)
      else if c = '-' then number (readNumber true rest)
      else if c.isDigit then number (readNumber false (c :: rest))
      else if c = '"' then
        match readString rest with
        | .ok (text, _) => .wrongType (.string text) wanted
        | .error e => e
      else if c = '[' then .wrongType .sequence wanted
      else if c = '\x7b' then .wrongType .map wanted
      else .expectedValue

/-- A string. -/
def readText (cs : List Char) : Except ReadError (Cut String) :=
  match skipBlanks cs with
  | '"' :: rest => readString rest
  | cs => .error (wrongTypeAt .string cs)

/-- A count: an integer of one word that is not negative. -/
def readCount (cs : List Char) : Except ReadError (Cut Nat) :=
  match skipBlanks cs with
  | [] => .error (.unfinished .value)
  | c :: rest =>
      if c = '-' ∨ c.isDigit then do
        let (number, rest) ←
          if c = '-' then readNumber true rest else readNumber false (c :: rest)
        match number with
        | .int n => if 0 ≤ n then return (n.toNat, rest) else throw (.negativeCount n)
        | .double x => throw (.wrongType (.double x) .count)
        | _ => throw .expectedValue
      else .error (wrongTypeAt .count (c :: rest))

/-- A value that may be left out by writing `null`. -/
def readOptional {α : Type} (read : Reader α) (cs : List Char) :
    Except ReadError (Cut (Option α)) :=
  match skipBlanks cs with
  | 'n' :: rest => do return (none, ← readWord ['u', 'l', 'l'] rest)
  | cs => do
      let (value, rest) ← read cs
      return (some value, rest)

/-- A list of values of one kind. -/
def readList {α : Type} (read : Reader α) (cs : List Char) :
    Except ReadError (Cut (List α)) :=
  match skipBlanks cs with
  | '[' :: rest => do
      let (items, rest) ← readArray
        (fun items cs => do
          let (item, rest) ← read cs
          return (item :: items, rest))
        [] rest
      return (items.reverse, rest)
  | cs => .error (wrongTypeAt .sequence cs)

/-- A map from names to values of one kind, the last of a key winning. -/
def readMap {α : Type} (read : Reader α) (cs : List Char) :
    Except ReadError (Cut (Dict α)) :=
  match skipBlanks cs with
  | '\x7b' :: rest =>
      readObject
        (fun dict key cs => do
          let (value, rest) ← read (← readColon cs)
          return (dict.insert key value, rest))
        (∅ : Dict α) rest
  | cs => .error (wrongTypeAt .map cs)

/-- Reads a whole text: after what is wanted, only blanks may follow. -/
def readWhole {α : Type} (read : Reader α) (cs : List Char) : Except ReadError α := do
  let (value, rest) ← read cs
  if skipBlanks rest = [] then return value else throw .trailingCharacters

/-- Reads a text that holds one value of any kind. -/
def parse (text : String) : Except ReadError Json :=
  readWhole (readValue nestingRoom) text.toList

end Rollup.Json
