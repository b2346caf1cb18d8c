import Rollup.Json.Basic
import Rollup.Text.Split

/-!
# Paths into a JSON value

A path is a text of segments with dots between them. A segment is a key where
it meets an object and an index where it meets an array; it leads nowhere from
anything else. The empty text is the path that stays where it is.
-/

namespace Rollup.Json

/-- One step: the member of that key, or the item of that index. -/
def child? (value : Json) (segment : List Char) : Option Json :=
  match value with
  | .object members => Entries.get? (String.ofList segment) members
  | .array items => do items[← Text.count? segment]?
  | _ => none

/-- The value at the end of several steps. -/
def descend? (value : Json) (segments : List (List Char)) : Option Json :=
  segments.foldlM child? value

/-- The value at a path. -/
def at? (value : Json) (path : String) : Option Json :=
  if path = "" then some value
  else value.descend? (Text.splitOn (· = '.') path.toList)

theorem descend?_nil (value : Json) : value.descend? [] = some value := rfl

/-- Steps can be taken in two parts. -/
theorem descend?_append (value : Json) (first second : List (List Char)) :
    value.descend? (first ++ second) = (value.descend? first).bind (·.descend? second) := by
  simp [descend?, List.foldlM_append, Option.bind_eq_bind]

end Rollup.Json
