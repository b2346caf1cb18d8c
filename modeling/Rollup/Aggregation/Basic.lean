import Rollup.Filter
import Rollup.Interval

/-!
# Aggregations

What a search computes: trees of buckets and statistics. A node names its
result, says what it computes, and holds what is computed within each of its
parts. Siblings are rendered as one object under their names.
-/

namespace Rollup

/-- What a node computes. -/
inductive Aggregation.Kind
  /-- A bucket for each value of a field, at most `size` of them. -/
  | terms (field : String) (size : Option Nat)
  /-- A bucket for each interval of the event time. -/
  | dateHistogram (interval : Interval)
  /-- A summary of the numbers in a field. -/
  | stats (field : String)
  /-- One bucket, of the documents that a clause holds for. -/
  | filtered (clause : Clause)

/-- A node with what is computed within it. -/
inductive Aggregation
  | node (name : String) (kind : Aggregation.Kind) (children : List Aggregation)

namespace Aggregation

/-- The name of documents that have no value in a field. -/
def missingName : String := "unset"

def name : Aggregation → String
  | node name _ _ => name

def kind : Aggregation → Kind
  | node _ kind _ => kind

def children : Aggregation → List Aggregation
  | node _ _ children => children

/-- The field that a node is about. -/
def Kind.field : Kind → String
  | terms field _ => field
  | dateHistogram _ => Field.time
  | stats field => field
  | filtered clause => clause.field

/-- The field whose values make the buckets of a node. -/
def termsField? (a : Aggregation) : Option String :=
  match a.kind with
  | .terms field _ => some field
  | _ => none

/-- Whether a node has a bucket for each value of a field. -/
def isTerms (a : Aggregation) : Bool := a.termsField?.isSome

/-- A summary without anything within it. -/
def statsNode (name field : String) : Aggregation := node name (.stats field) []

/-- A summary of the numbers in a field that are greater than zero. -/
def nonZeroStats (field : String) : Aggregation :=
  node ("no0_" ++ field) (.filtered (.greaterThan field (.int 0))) [statsNode field field]

/-! ## Rendering -/

/-- What a node computes, as the member of its body. -/
def Kind.member : Kind → String × Json
  | terms field size =>
      ("terms", .ofMembers <|
        [("field", .string field), ("missing", .string missingName)] ++
          (size.map fun n => ("size", Json.int n)).toList)
  | dateHistogram interval =>
      ("date_histogram",
        .ofMembers [("field", .string Field.time), ("fixed_interval", .string interval.render)])
  | stats field => ("stats", .ofMembers [("field", .string field)])
  | filtered clause => ("filter", clause.toJson)

mutual

/-- The body of a node. -/
def body : Aggregation → Json
  | node _ kind children =>
      .ofMembers <| kind.member ::
        if children.isEmpty then [] else [("aggs", .ofMembers (bodies children))]

/-- The names and bodies of siblings. -/
def bodies : List Aggregation → List (String × Json)
  | [] => []
  | first :: rest => (first.name, body first) :: bodies rest

end

/-- Siblings as an object under their names. -/
def render (nodes : List Aggregation) : Json := .ofMembers (bodies nodes)

end Aggregation

end Rollup
