import Rollup.Aggregation.Basic
import Rollup.Log

/-!
# Totals

Breakdowns often start with the same field. Each field that a root divides by
gets one total: a summary of the count, named like the field. A total whose name
is taken by a root would replace that root in the rendered object, so it is
left out and reported.
-/

namespace Rollup.Aggregation

/-- The total of a field. -/
def total (field : String) : Aggregation := statsNode field Field.count

/-- The totals of roots whose fields are not among those seen; `names` are the names taken. -/
def totals (names : List String) : List String → List Aggregation → Logged (List Aggregation)
  | _, [] => .quiet []
  | seen, root :: rest =>
      match root.termsField? with
      | none => totals names seen rest
      | some field =>
          if field ∈ seen then totals names seen rest
          else if field ∈ names then
            (totals names (field :: seen) rest).after [.totalSkipped field]
          else (totals names (field :: seen) rest).map (total field :: ·)

/-- The totals that roots lack. -/
def missingTotals (roots : List Aggregation) : Logged (List Aggregation) :=
  totals (roots.map name) [] roots

/-- Puts the totals that roots lack behind them, and counts the totals. -/
def addTotals (roots : List Aggregation) : Logged (List Aggregation × Nat) :=
  (missingTotals roots).map fun totals => (roots ++ totals, totals.length)

/-- The roots with their totals behind them. -/
def withTotals (roots : List Aggregation) : Logged (List Aggregation) :=
  (addTotals roots).map Prod.fst

end Rollup.Aggregation
