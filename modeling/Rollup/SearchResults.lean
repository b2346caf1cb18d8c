import Rollup.Json.Path
import Rollup.Json.Record

/-!
# Search results

What comes back from a search: aggregations by name and example documents. Both
are passed on as they are; the payload is the object of the aggregations with
the examples as one more member.
-/

namespace Rollup

/-- Aggregations and examples. -/
structure SearchResults where
  aggregations : Dict Json
  examples : List Json

namespace SearchResults

/-- The member of the payload that holds the examples. -/
def examplesKey : String := "examples"

/-- Takes the results out of a response. Sections that are missing come back empty. -/
def ofResponse (response : Json) : SearchResults where
  aggregations := .ofPairs <| ((response.at? "aggregations").bind Json.members?).getD []
  examples := ((response.at? "hits.hits").bind Json.items?).getD []

/-- The aggregations with the examples added. -/
def payload (r : SearchResults) : Json :=
  .object (r.aggregations.insert examplesKey (.array r.examples)).entries

/-- The results as an object of their own. -/
def toJson (r : SearchResults) : Json :=
  .ofMembers [("aggregations", .object r.aggregations.entries), (examplesKey, .array r.examples)]

/-- The two fields. Values in them are one array or object deeper than the results, and those in
turn one deeper than the text. -/
def fields : List (Json.Field SearchResults) := [
  { name := "aggregations", aliases := [], required := true, defaulted := false
    read := fun r cs => do
      let (aggregations, rest) ← Json.readMap (Json.readValue (Json.nestingRoom - 2)) cs
      return ({ r with aggregations }, rest) },
  { name := "examples", aliases := [], required := true, defaulted := false
    read := fun r cs => do
      let (examples, rest) ← Json.readList (Json.readValue (Json.nestingRoom - 2)) cs
      return ({ r with examples }, rest) }]

/-- Reads results from JSON. -/
def ofText (text : String) : Except Json.ReadError SearchResults :=
  Json.readWhole (Json.readRecord "SearchResults" fields ⟨∅, []⟩) text.toList

end SearchResults

end Rollup
