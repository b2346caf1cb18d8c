import Rollup.Calendar.Timestamp
import Rollup.Config
import Rollup.Json.Record
import Rollup.SearchResults

/-!
# Inquiries

What a client asks for, as it comes in: a JSON record in which every field may
be left out. Resolving an inquiry reads its texts and fills in what is missing
from the configuration; compiling a resolved inquiry gives the search request.

The clock and the name of the request are arguments, so that all of this is a
function of its input.
-/

namespace Rollup

/-- A request as it comes in. -/
structure Inquiry where
  dataspace : Option String
  start : Option String
  stop : Option String
  query : Option String
  breakdowns : Option (List (Option String))
  /-- The most buckets of a node. -/
  size : Option Nat
  /-- The most example documents. -/
  examples : Option Nat
  interval : Option String
deriving DecidableEq

namespace Inquiry

/-- The inquiry that leaves everything out. -/
def empty : Inquiry := ⟨none, none, none, none, none, none, none, none⟩

/-- A field of an inquiry: it may be left out or `null`. -/
def field {α : Type} (name : String) (aliases : List String) (defaulted : Bool)
    (read : Json.Reader α) (set : Inquiry → Option α → Inquiry) : Json.Field Inquiry where
  name := name
  aliases := aliases
  required := false
  defaulted := defaulted
  read := fun inquiry cs => do
    let (value, rest) ← Json.readOptional read cs
    return (set inquiry value, rest)

/-- The fields of an inquiry in their order. -/
def fields : List (Json.Field Inquiry) := [
  field "dataspace" [] false Json.readText fun q v => { q with dataspace := v },
  field "start" [] false Json.readText fun q v => { q with start := v },
  field "end" [] false Json.readText fun q v => { q with stop := v },
  field "q" ["query"] true Json.readText fun q v => { q with query := v },
  field "breakdown" ["breakdowns"] false (Json.readList (Json.readOptional Json.readText))
    fun q v => { q with breakdowns := v },
  field "size" [] false Json.readCount fun q v => { q with size := v },
  field "examples" [] false Json.readCount fun q v => { q with examples := v },
  field "interval" [] false Json.readText fun q v => { q with interval := v }]

/-- Reads an inquiry from JSON. -/
def ofText (text : String) : Except Json.ReadError Inquiry :=
  Json.readWhole (Json.readRecord "BreakdownQuery" fields empty) text.toList

end Inquiry

/-- An inquiry with everything filled in. -/
structure ResolvedInquiry where
  requestId : String
  dataspace : Dataspace
  window : Window
  query : SearchQuery
  breakdowns : List (Option String)
  resultCeiling : Nat
  exampleCeiling : Nat
  interval : Interval

/-- Why an inquiry has no answer. -/
inductive Fault
  /-- The inquiry is refused. -/
  | refused (cause : RequestError)
  /-- The inquiry names no start, and there is no time thirty days before its end. -/
  | noWindowUpTo (stop : Calendar.Instant)
deriving DecidableEq

namespace Inquiry

/-- Reads a timestamp; the error shows the text as it was given. -/
def readTimestamp (text : String) : Except Fault Calendar.Instant :=
  match Calendar.Timestamp.parse (Text.trim text.toList) with
  | .ok t => .ok t
  | .error e => .error (.refused (.invalidTimestamp text e.message))

/-- Reads an interval; the error shows the text as it was given. -/
def readInterval (text : String) : Except RequestError Interval :=
  match Interval.ofText? text with
  | some interval => .ok interval
  | none => .error (.invalidInterval text)

/-- The dataspace of an inquiry. -/
def resolveDataspace (q : Inquiry) (config : Config) : Except Fault Dataspace :=
  match Dataspace.ofText (q.dataspace.getD config.dataspace) with
  | .ok d => .ok d
  | .error cause => .error (.refused (.event cause))

/-- The end of the window of an inquiry. -/
def resolveStop (q : Inquiry) (now : Calendar.Instant) : Except Fault Calendar.Instant :=
  match q.stop with
  | some text => readTimestamp text
  | none => .ok now

/-- The start of the window of an inquiry. -/
def resolveStart (q : Inquiry) (stop : Calendar.Instant) : Except Fault Calendar.Instant :=
  match q.start with
  | some text => readTimestamp text
  | none =>
      match Window.monthUpTo? stop with
      | some window => .ok window.start
      | none => .error (.noWindowUpTo stop)

/-- The interval of an inquiry. -/
def resolveInterval (q : Inquiry) (config : Config) : Except Fault Interval :=
  match q.interval with
  | some text =>
      match readInterval text with
      | .ok interval => .ok interval
      | .error cause => .error (.refused cause)
  | none => .ok config.interval

/-- Fills in what an inquiry leaves out. -/
def resolve (q : Inquiry) (config : Config) (now : Calendar.Instant) (requestId : String) :
    Except Fault ResolvedInquiry := do
  let dataspace ← q.resolveDataspace config
  let stop ← q.resolveStop now
  let start ← q.resolveStart stop
  let interval ← q.resolveInterval config
  return {
    requestId
    dataspace
    window := ⟨start, stop⟩
    query := SearchQuery.parse (q.query.getD "")
    breakdowns := q.breakdowns.getD (config.breakdowns.map some)
    resultCeiling := q.size.getD config.resultCeiling
    exampleCeiling := q.examples.getD config.exampleCeiling
    interval }

end Inquiry

namespace ResolvedInquiry

/-- The context of the records of an inquiry. -/
def logContext (r : ResolvedInquiry) : LogContext :=
  (LogContext.ofDataspace r.dataspace.name).withRequest r.requestId

/-- The draft of an inquiry. -/
def draft (r : ResolvedInquiry) (config : Config) : RequestDraft where
  dataspace := r.dataspace
  indexStem := config.indexStem
  resultCeiling := some r.resultCeiling
  exampleCeiling := r.exampleCeiling
  window := r.window
  query := r.query
  breakdowns := r.breakdowns
  interval := r.interval
  filterableProps := config.filterableProps
  logContext := r.logContext

/-- Compiles a resolved inquiry. -/
def compile (r : ResolvedInquiry) (config : Config) :
    Logged (Except RequestError SearchRequest) :=
  let prepared := (r.draft config).prepare
  ⟨.queryReceived r.logContext r.window.start r.window.stop r.breakdowns.length r.interval ::
      prepared.records ++
        match prepared.value with
        | .error cause => [.queryRejected r.logContext cause]
        | .ok _ => [],
    prepared.value⟩

end ResolvedInquiry

/-- Compiles the text of an inquiry: where to send the request, and its body. -/
def compileInquiry (text : String) (env : Config.Environment) (now : Calendar.Instant)
    (requestId : String) : Except Fault Json := do
  match Inquiry.ofText text with
  | .error cause => throw (.refused (.malformedRequest cause))
  | .ok inquiry =>
      let config := (Config.ofEnvironment env).value
      let resolved ← inquiry.resolve config now requestId
      match (resolved.compile config).value with
      | .error cause => throw (.refused cause)
      | .ok request =>
          return .ofMembers [("index", .string request.index), ("body", request.toJson)]

/-- Splits the text of a response into what is shown. -/
def responsePayload (text : String) : Except RequestError Json :=
  match Json.parse text with
  | .ok response => .ok (SearchResults.ofResponse response).payload
  | .error cause => .error (.malformedRequest cause)

end Rollup
