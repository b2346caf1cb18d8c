import Rollup.Calendar.Instant
import Rollup.Field
import Rollup.Json.Writer

/-!
# Filters

What documents a search looks at. A filter is a list of clauses that all have
to hold; a clause bounds a field or asks for one exact value.
-/

namespace Rollup

/-- The instants from `start` on and before `stop`. -/
structure Window where
  start : Calendar.Instant
  stop : Calendar.Instant
deriving DecidableEq

/-- One condition on a field. -/
inductive Clause
  /-- The field lies within bounds; a bound that is left out is open. -/
  | range (field : String) (gt gte lt : Option Json)
  /-- The field has the value. -/
  | term (field value : String)

namespace Clause

/-- The field is greater than a value. -/
def greaterThan (field : String) (value : Json) : Clause := range field (some value) none none

/-- The event time lies in a window. The bounds keep the fraction of a second, so that a window
within one second does not close. -/
def window (w : Window) : Clause :=
  range Field.time none (some (.string w.start.stamp)) (some (.string w.stop.stamp))

/-- The field that a clause is about. -/
def field : Clause → String
  | range field .. => field
  | term field _ => field

/-- The bounds of a range that are there. -/
def bounds (gt gte lt : Option Json) : List (String × Json) :=
  (gt.map ("gt", ·)).toList ++ (gte.map ("gte", ·)).toList ++ (lt.map ("lt", ·)).toList

/-- A clause in JSON. -/
def toJson : Clause → Json
  | range field gt gte lt =>
      .ofMembers [("range", .ofMembers [(field, .ofMembers (bounds gt gte lt))])]
  | term field value => .ofMembers [("term", .ofMembers [(field, .string value)])]

/-- Whether two bounds are equal. -/
def sameBound : Option Json → Option Json → Bool
  | none, none => true
  | some a, some b => a.same b
  | _, _ => false

/-- Equality of clauses, in which bounds are compared as values. -/
def same : Clause → Clause → Bool
  | range f gt gte lt, range f' gt' gte' lt' =>
      f = f' && sameBound gt gt' && sameBound gte gte' && sameBound lt lt'
  | term f v, term f' v' => f = f' && v = v'
  | _, _ => false

end Clause

/-- Clauses that all have to hold. -/
structure Filter where
  clauses : List Clause

namespace Filter

/-- The filter that everything passes. -/
def empty : Filter := ⟨[]⟩

/-- The filter with one more clause. -/
def must (f : Filter) (clause : Clause) : Filter := ⟨f.clauses ++ [clause]⟩

/-- A filter in JSON. -/
def toJson (f : Filter) : Json :=
  .ofMembers [("bool", .ofMembers [("filter", .array (f.clauses.map Clause.toJson))])]

end Filter

namespace Window

/-- The month up to an instant, or thirty days where that month has no such day. An instant that
has no thirty days before it has no such window. -/
def monthUpTo? (stop : Calendar.Instant) : Option Window :=
  (stop.daysBefore? 30).map fun fallback => ⟨stop.monthBefore?.getD fallback, stop⟩

end Window

end Rollup
