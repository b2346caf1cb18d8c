import Rollup.Aggregation.Build
import Rollup.Aggregation.Totals
import Rollup.Dataspace
import Rollup.SearchQuery

/-!
# Search requests

A draft collects the settings of a search, and preparing it gives the request
that the index understands: the index, a filter, the aggregations and how many
example documents to return. Only properties on a list of names become filters,
so text in a query never reaches the index by itself.

The window may be left open until a draft is prepared, and is then the month up
to that time. The clock is an argument, and once it has been read what is left is
a draft with a window.
-/

namespace Rollup

/-- The settings of a search, apart from its window. -/
structure SearchSettings where
  dataspace : Dataspace
  /-- The text in front of the dataspace in the name of the index. -/
  indexStem : String
  /-- The most buckets of a node; zero leaves it open. -/
  resultCeiling : Option Nat
  /-- The most example documents. -/
  exampleCeiling : Nat
  query : SearchQuery
  /-- Breakdown expressions; those that are missing or blank are skipped. -/
  breakdowns : List (Option String)
  interval : Interval
  /-- The properties of a query that become filters. -/
  filterableProps : List String
  logContext : LogContext

/-- The settings of a search and its window. -/
structure RequestDraft extends SearchSettings where
  window : Window

/-- The settings of a search that may leave the window open until it is prepared. -/
structure OpenDraft extends SearchSettings where
  window? : Option Window

/-- A complete search request. -/
structure SearchRequest where
  index : String
  filter : Filter
  aggregations : List Aggregation
  /-- How many example documents to return. -/
  size : Nat

namespace SearchRequest

/-- The body of a request. -/
def toJson (r : SearchRequest) : Json :=
  .ofMembers [("size", .int r.size), ("query", r.filter.toJson),
    ("aggs", Aggregation.render r.aggregations)]

end SearchRequest

namespace RequestDraft

/-- The properties that become filters unless the draft says otherwise. -/
def defaultFilterableProps : List String := ["host", "campaign"]

/-- How many example documents are returned unless the draft says otherwise. -/
def defaultExampleCeiling : Nat := 10

/-- The settings of a search that says only its dataspace. -/
def defaultSettings (dataspace : Dataspace) : SearchSettings where
  dataspace := dataspace
  indexStem := Dataspace.defaultStem
  resultCeiling := none
  exampleCeiling := defaultExampleCeiling
  query := ⟨"", [], []⟩
  breakdowns := []
  interval := .day
  filterableProps := defaultFilterableProps
  logContext := .ofDataspace dataspace.name

/-- A draft with only a dataspace and a window. -/
def make (dataspace : Dataspace) (window : Window) : RequestDraft :=
  ⟨defaultSettings dataspace, window⟩

/-- The clause of each property on the list that the query has, in the order of the list. -/
def propertyClauses (query : SearchQuery) (filterable : List String) : List Clause :=
  filterable.filterMap fun key => (query.prop? key).map fun value => .term key value

/-- What a query says beyond the list: keys that are not on it, and all terms. -/
def ignoredTerms (query : SearchQuery) (filterable : List String) : List String :=
  (query.props.map Prod.fst).filter (fun key => !filterable.contains key) ++ query.terms

/-- The filter of a draft. -/
def filter (d : RequestDraft) : Logged Filter :=
  let ignored := ignoredTerms d.query d.filterableProps
  ⟨if ignored = [] then [] else [.queryTermsIgnored d.logContext ignored],
    ⟨.window d.window :: propertyClauses d.query d.filterableProps⟩⟩

/-- The text of an entry in the list of breakdowns, trimmed, unless it is missing or blank. -/
def entryText? (entry : Option String) : Option String :=
  (entry.map Text.trimString).filter (· ≠ "")

/-- Builds the tree of each breakdown. One with the name of an earlier one is skipped. -/
def roots (options : Aggregation.Options) (ctx : LogContext) :
    List Aggregation → List (Option String) →
      Logged (Except RequestError (List Aggregation))
  | kept, [] => .quiet (.ok kept)
  | kept, entry :: rest =>
      match entryText? entry with
      | none => (roots options ctx kept rest).after [.breakdownBlank ctx]
      | some text =>
          let within := ctx.withBreakdown text
          match Breakdown.parse text >>= Aggregation.build options within with
          | .error cause => .quiet (.error (.breakdown cause))
          | .ok built =>
              if kept.any fun root => root.name = built.value.name then
                (roots options ctx kept rest).after
                  (built.records ++ [.breakdownRepeated within built.value.name])
              else (roots options ctx (kept ++ [built.value]) rest).after built.records

/-- The settings of the trees of a draft. -/
def options (d : RequestDraft) : Aggregation.Options := ⟨d.interval, d.resultCeiling⟩

/-- Puts a request together from its filter and its roots. -/
def complete (d : RequestDraft) (filter : Filter) (roots : List Aggregation) :
    Logged SearchRequest :=
  let index := d.dataspace.indexName d.indexStem
  let added := Aggregation.addTotals roots
  ⟨added.records ++ [.searchPrepared d.logContext index filter.clauses.length
      added.value.1.length added.value.2],
    ⟨index, filter, added.value.1, d.exampleCeiling⟩⟩

/-- Prepares a draft. The window is checked first, then the breakdowns in order. -/
def prepare (d : RequestDraft) : Logged (Except RequestError SearchRequest) :=
  if !d.window.start.before d.window.stop then
    .quiet (.error (.invalidTimeRange d.window.start d.window.stop))
  else
    let filter := d.filter
    let roots := roots d.options d.logContext [] d.breakdowns
    match roots.value with
    | .error cause => ⟨filter.records ++ roots.records, .error cause⟩
    | .ok trees =>
        let request := d.complete filter.value trees
        ⟨filter.records ++ roots.records ++ request.records, .ok request.value⟩

end RequestDraft

namespace OpenDraft

/-- A draft with only a dataspace. -/
def make (dataspace : Dataspace) : OpenDraft := ⟨RequestDraft.defaultSettings dataspace, none⟩

/-- The draft with the window that was set or, if it was left open, with the month up to now. Where
that is open and there is no month up to now, there is no such draft. -/
def close? (d : OpenDraft) (now : Calendar.Instant) : Option RequestDraft :=
  (d.window?.or (Window.monthUpTo? now)).map fun window => ⟨d.toSearchSettings, window⟩

/-- Prepares a draft that may have left its window open. -/
def prepare? (d : OpenDraft) (now : Calendar.Instant) :
    Option (Logged (Except RequestError SearchRequest)) :=
  (d.close? now).map RequestDraft.prepare

end OpenDraft

end Rollup
