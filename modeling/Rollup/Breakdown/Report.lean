import Rollup.Json.Reader
import Rollup.Text.Blank
import Rollup.Text.Word

/-!
# Reports

The object at the end of a breakdown says which numbers to report: it maps
fields to operations. It is JSON, but names may stand in it without quotes. A
text that is JSON as it stands is read as it stands; otherwise names in the
place of a key are put in quotes, then names in the place of a value, and what
comes out has to be JSON.

The two passes look at the characters around a name only and know nothing of
strings.
-/

namespace Rollup.Breakdown

/-- Whether a character may start a name without quotes. -/
def startsName (c : Char) : Bool := c.isAlpha || c = '_'

/-- Whether a character may stand in a name without quotes after its start. -/
def continuesName (c : Char) : Bool := Text.isWord c || c = '.'

/-- A name between blanks, and what follows. -/
structure BareName where
  /-- Blanks in front of the name. -/
  before : List Char
  name : List Char
  /-- Blanks behind the name and the character after them. -/
  after : List Char
  rest : List Char

/-- The name that stands here, between blanks and before a closing character. -/
def bareName? (closes : Char → Bool) (cs : List Char) : Option BareName :=
  match cs.dropWhile Text.isBlank with
  | [] => none
  | first :: more =>
      if startsName first then
        let behind := more.dropWhile continuesName
        match behind.dropWhile Text.isBlank with
        | [] => none
        | close :: rest =>
            if closes close then
              some ⟨cs.takeWhile Text.isBlank, first :: more.takeWhile continuesName,
                behind.takeWhile Text.isBlank ++ [close], rest⟩
            else none
      else none

/-- What follows a name is shorter than the text. -/
theorem bareName?_rest_length {closes : Char → Bool} {cs : List Char} {found : BareName}
    (h : bareName? closes cs = some found) : found.rest.length < cs.length := by
  unfold bareName? at h
  split at h
  · cases h
  · next first more hfirst =>
    split at h
    · simp only at h
      split at h
      · cases h
      · next close rest hclose =>
        split at h
        · cases h
          have h1 := Text.length_dropWhile_le Text.isBlank cs
          have h2 := Text.length_dropWhile_le continuesName more
          have h3 := Text.length_dropWhile_le Text.isBlank (more.dropWhile continuesName)
          rw [hfirst] at h1
          rw [hclose] at h3
          simp only [List.length_cons] at h1 h3
          show rest.length < cs.length
          omega
        · cases h
    · cases h

/-- Puts quotes around each name that stands between an opening and a closing character. The search
goes on after the closing character. -/
def quoteNames (opens closes : Char → Bool) : List Char → List Char
  | [] => []
  | c :: cs =>
      if opens c then
        match _h : bareName? closes cs with
        | some found =>
            c :: found.before ++ '"' :: found.name ++ '"' :: found.after ++
              quoteNames opens closes found.rest
        | none => c :: quoteNames opens closes cs
      else c :: quoteNames opens closes cs
termination_by cs => cs.length
decreasing_by
  · exact Nat.lt_succ_of_lt (bareName?_rest_length (by assumption))
  · exact Nat.lt_succ_self cs.length
  · exact Nat.lt_succ_self cs.length

/-- Puts quotes around names in the place of a key. -/
def quoteKeys : List Char → List Char :=
  quoteNames (fun c => c = '\x7b' || c = ',') (fun c => c = ':')

/-- Puts quotes around names in the place of a value. -/
def quoteValues : List Char → List Char :=
  quoteNames (fun c => c = ':') (fun c => c = ',' || c = '\x7d')

/-- Reads a map of strings from JSON. -/
def readStrictReport (cs : List Char) : Except Json.ReadError (Dict String) :=
  Json.readWhole (Json.readMap Json.readText) cs

/-- Reads a report. Where it is not JSON as it stands, the error is that of the text with quotes put
in. -/
def readReport (cs : List Char) : Except Json.ReadError (Dict String) :=
  match readStrictReport cs with
  | .ok operations => .ok operations
  | .error _ => readStrictReport (quoteValues (quoteKeys cs))

end Rollup.Breakdown
