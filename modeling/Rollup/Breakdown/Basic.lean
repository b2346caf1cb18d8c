import Rollup.Breakdown.Report
import Rollup.Error

/-!
# Breakdowns

A breakdown says how to divide events: `tag/time {count: avg}` divides by tag,
then by time, and reports a number for each part. The text is a chain of fields
with slashes between them and, from the first brace on, a report. Blanks may
stand around everything.
-/

namespace Rollup

/-- How to divide events: by each field in turn, with a report on the parts if there is one. -/
structure Breakdown where
  fields : List String
  operations : Option (Dict String)
deriving DecidableEq

namespace Breakdown

/-- Whether a character may stand in the name of a field. -/
def isFieldChar (c : Char) : Bool := Text.isWord c || c = '.' || c = '@' || c = ':' || c = '-'

/-- Whether a text is the name of a field. -/
def isFieldName (cs : List Char) : Bool := !cs.isEmpty && cs.all isFieldChar

/-- Reads the fields of a chain; `breakdown` is the whole text, for the error. -/
def readChain (breakdown : String) (chain : List Char) : Except BreakdownError (List String) :=
  if Text.allBlank chain then .error .emptyChain
  else
    (Text.splitOn (· = '/') chain).mapM fun piece =>
      let name := Text.trim piece
      if isFieldName name then .ok (String.ofList name)
      else .error (.invalidField breakdown (String.ofList name))

/-- Reads a breakdown. A brace starts the report, which has to end the text. -/
def parse (breakdown : String) : Except BreakdownError Breakdown :=
  let chain := breakdown.toList.takeWhile (· ≠ '\x7b')
  let report := Text.trimEnd (breakdown.toList.dropWhile (· ≠ '\x7b'))
  if report = [] then do return ⟨← readChain breakdown chain, none⟩
  else if report.getLast? ≠ some '\x7d' then .error (.malformed breakdown)
  else do
    let fields ← readChain breakdown chain
    match readReport report with
    | .ok operations => return ⟨fields, some operations⟩
    | .error cause => throw (.malformedReport breakdown cause)

end Breakdown

end Rollup
