import Rollup.Text.Blank
import Rollup.Text.Split
import Rollup.Text.Word

/-!
# Free-text queries

`host:example.com "some words" campaign:"spring sale"` holds properties and
terms. An item starts at the first character that is not blank and follows the
item before it, with or without a blank between. It is a property if a word and
a colon start it and a value follows the colon; otherwise it is a term. A value
or a term is what stands between two quotes, or all up to the next blank.
-/

namespace Rollup

/-- One item of a query. -/
inductive QueryItem
  | property (key value : List Char)
  | term (text : List Char)
deriving DecidableEq, Repr

namespace QueryItem

/-- The key and value of a property. -/
def prop? : QueryItem → Option (String × String)
  | .property key value => some (String.ofList key, String.ofList value)
  | .term _ => none

/-- The text of a term. A term between two quotes may be empty, and says nothing then. -/
def term? : QueryItem → Option String
  | .property .. => none
  | .term text => if text = [] then none else some (String.ofList text)

end QueryItem

/-- A query, taken apart. -/
structure SearchQuery where
  raw : String
  /-- The properties, the first of a key only, in the order of the query. -/
  props : List (String × String)
  /-- The terms, in the order of the query. -/
  terms : List String
deriving DecidableEq, Repr

namespace SearchQuery

/-- Whether a character is not blank. -/
def isVisible (c : Char) : Bool := !Text.isBlank c

/-- The text up to a closing quote and what follows the quote, from after an opening one. -/
def quotedRun? (cs : List Char) : Option (List Char × List Char) :=
  match cs.dropWhile (· ≠ '"') with
  | [] => none
  | _ :: rest => some (cs.takeWhile (· ≠ '"'), rest)

/-- A value and what follows it, if one starts here. -/
def valueRun? : List Char → Option (List Char × List Char)
  | [] => none
  | c :: cs =>
      if Text.isBlank c then none
      else
        let visible := (c :: cs.takeWhile isVisible, cs.dropWhile isVisible)
        if c = '"' then some ((quotedRun? cs).getD visible) else some visible

/-- A property and what follows it, if one starts here. -/
def propertyRun? (cs : List Char) : Option (QueryItem × List Char) :=
  match cs.dropWhile Text.isWord with
  | ':' :: rest =>
      if cs.takeWhile Text.isWord = [] then none
      else (valueRun? rest).map fun (value, rest) =>
        (.property (cs.takeWhile Text.isWord) value, rest)
  | _ => none

/-- An item and what follows it, if one starts here. -/
def itemRun? (cs : List Char) : Option (QueryItem × List Char) :=
  match propertyRun? cs with
  | some found => some found
  | none => (valueRun? cs).map fun (text, rest) => (.term text, rest)

theorem quotedRun?_rest_length {cs text rest : List Char}
    (h : quotedRun? cs = some (text, rest)) : rest.length < cs.length := by
  unfold quotedRun? at h
  split at h
  · cases h
  · next c tail hdrop =>
    have hle := Text.length_dropWhile_le (· ≠ '"') cs
    rw [hdrop] at hle
    cases h
    exact hle

theorem valueRun?_rest_length {cs value rest : List Char}
    (h : valueRun? cs = some (value, rest)) : rest.length < cs.length := by
  match cs with
  | [] => cases h
  | c :: cs =>
    have hle := Text.length_dropWhile_le isVisible cs
    simp only [valueRun?] at h
    split at h
    · cases h
    · split at h
      · cases hq : quotedRun? cs with
        | none =>
          rw [hq] at h
          cases h
          simp only [List.length_cons]
          omega
        | some found =>
          rw [hq] at h
          cases h
          have := quotedRun?_rest_length hq
          simp only [List.length_cons]
          omega
      · cases h
        simp only [List.length_cons]
        omega

theorem propertyRun?_rest_length {cs rest : List Char} {item : QueryItem}
    (h : propertyRun? cs = some (item, rest)) : rest.length < cs.length := by
  unfold propertyRun? at h
  split at h
  · next tail hdrop =>
    have hle := Text.length_dropWhile_le Text.isWord cs
    rw [hdrop] at hle
    split at h
    · cases h
    · obtain ⟨⟨value, after⟩, hv, heq⟩ := Option.map_eq_some_iff.1 h
      have := valueRun?_rest_length hv
      cases heq
      simp only [List.length_cons] at hle
      omega
  · cases h

/-- What follows an item is shorter than the text. -/
theorem itemRun?_rest_length {cs rest : List Char} {item : QueryItem}
    (h : itemRun? cs = some (item, rest)) : rest.length < cs.length := by
  unfold itemRun? at h
  split at h
  · next found hp =>
    cases h
    exact propertyRun?_rest_length hp
  · obtain ⟨⟨value, after⟩, hv, heq⟩ := Option.map_eq_some_iff.1 h
    have := valueRun?_rest_length hv
    cases heq
    exact this

/-- All items of a text. -/
def items : List Char → List QueryItem
  | [] => []
  | c :: cs =>
      match _h : itemRun? (c :: cs) with
      | some (item, rest) => item :: items rest
      | none => items cs
termination_by cs => cs.length
decreasing_by
  · exact itemRun?_rest_length (by assumption)
  · exact Nat.lt_succ_self cs.length

/-- The pairs whose key no earlier pair has. -/
def firstOfKeys : List (String × String) → List (String × String)
  | [] => []
  | first :: rest => first :: (firstOfKeys rest).filter fun entry => entry.1 ≠ first.1

/-- Takes a query apart. -/
def parse (raw : String) : SearchQuery where
  raw := raw
  props := firstOfKeys ((items raw.toList).filterMap QueryItem.prop?)
  terms := (items raw.toList).filterMap QueryItem.term?

/-- Whether a query says nothing. -/
def isEmpty (q : SearchQuery) : Bool := q.props.isEmpty && q.terms.isEmpty

/-- The value of a property. -/
def prop? (q : SearchQuery) (key : String) : Option String :=
  (q.props.find? fun entry => entry.1 = key).map Prod.snd

end SearchQuery

end Rollup
