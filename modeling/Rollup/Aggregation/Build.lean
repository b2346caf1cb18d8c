import Rollup.Aggregation.Basic
import Rollup.Breakdown.Basic
import Rollup.Log

/-!
# Building the aggregation of a breakdown

A breakdown becomes a chain of nodes, one for each field and each within the
one before. A node is named after its own field and all fields after it, so
that the name of the root tells breakdowns apart. The numbers of the report are
computed within the last node.
-/

namespace Rollup.Aggregation

/-- Settings that hold for all trees of a request. -/
structure Options where
  interval : Interval
  /-- The most buckets of a node; none, or zero, leaves it open. -/
  ceiling : Option Nat

/-- The settings of a request that names none. -/
def Options.default : Options := ⟨.day, none⟩

/-- The operations that a report may name. -/
def knownOperations : List String := ["avg", "sum", "min", "max", "count", "stats"]

/-- The name of the node for the first of some fields. -/
def chainName (fields : List String) : String := "by_" ++ "_".intercalate fields

/-- A node for one field: time is divided by interval, any other field by value. -/
def bucket (options : Options) (name field : String) (children : List Aggregation) : Aggregation :=
  node name
    (if field = Field.time then .dateHistogram options.interval
      else .terms field (options.ceiling.filter (0 < ·)))
    children

/-- The chain of nodes for a field and those after it, with what the last of them holds. -/
def chain (options : Options) (leaves : List Aggregation) : String → List String → Aggregation
  | field, [] => bucket options (chainName [field]) field leaves
  | field, next :: rest =>
      bucket options (chainName (field :: next :: rest)) field [chain options leaves next rest]

/-- What there is to say about one entry of a report. -/
def checkOperation (ctx : LogContext) (fields : List String) (field operation : String) :
    List LogRecord :=
  (if Field.isNumeric field then []
    else [.reportFieldNotNumeric ctx field operation ("/".intercalate fields)]) ++
  (if operation ∈ knownOperations then []
    else [.reportOperationUnknown ctx field operation knownOperations])

/-- The entries of a report, none if there is no report. -/
def reportEntries (b : Breakdown) : Entries String :=
  match b.operations with
  | some operations => operations.entries
  | none => []

/-- Builds the tree of a breakdown. The operations only cause warnings: a summary has all of them. -/
def build (options : Options) (ctx : LogContext) (b : Breakdown) :
    Except BreakdownError (Logged Aggregation) :=
  match b.fields with
  | [] => .error .emptyChain
  | field :: rest =>
      let report := reportEntries b
      let tree := chain options (report.map fun entry => nonZeroStats entry.1) field rest
      .ok ⟨report.flatMap (fun entry => checkOperation ctx b.fields entry.1 entry.2) ++
        [.aggregationBuilt ctx tree.name b.fields.length], tree⟩

end Rollup.Aggregation
