import Rollup.Error
import Rollup.Interval

/-!
# Log records

What assembling a request reports on the way. A record is data, kept in the
order in which it came up beside the result it belongs to; its wording is a
function here, and writing it anywhere is up to the caller.
-/

namespace Rollup

/-- What a record says about where it came from. -/
structure LogContext where
  dataspace : String
  requestId : Option String
  breakdown : Option String
deriving DecidableEq, Repr

namespace LogContext

/-- The context of a dataspace. -/
def ofDataspace (dataspace : String) : LogContext := ⟨dataspace, none, none⟩

/-- The context within a request. -/
def withRequest (ctx : LogContext) (id : String) : LogContext := { ctx with requestId := some id }

/-- The context within a breakdown. -/
def withBreakdown (ctx : LogContext) (breakdown : String) : LogContext :=
  { ctx with breakdown := some breakdown }

/-- The text in front of a record. -/
def display (ctx : LogContext) : String :=
  "[dataspace=" ++ ctx.dataspace ++ "]" ++
    (match ctx.requestId with
      | some id => " [request=" ++ id ++ "]"
      | none => "") ++
    (match ctx.breakdown with
      | some breakdown => " [breakdown=" ++ breakdown ++ "]"
      | none => "")

end LogContext

/-- How much a record matters. -/
inductive LogLevel
  | debug
  | info
  | warn
deriving DecidableEq, Repr

/-- The name of a level. -/
def LogLevel.name : LogLevel → String
  | debug => "DEBUG"
  | info => "INFO"
  | warn => "WARN"

/-- One thing that is reported. -/
inductive LogRecord
  /-- A breakdown has its tree. -/
  | aggregationBuilt (ctx : LogContext) (name : String) (depth : Nat)
  /-- A report asks for a number from a field that holds none. -/
  | reportFieldNotNumeric (ctx : LogContext) (field operation chain : String)
  /-- A report asks for an operation that is not known. -/
  | reportOperationUnknown (ctx : LogContext) (field operation : String) (known : List String)
  /-- A total is left out because a breakdown has its name. -/
  | totalSkipped (name : String)
  /-- A breakdown is null or blank. -/
  | breakdownBlank (ctx : LogContext)
  /-- A breakdown has the name of an earlier one. -/
  | breakdownRepeated (ctx : LogContext) (name : String)
  /-- What a query says beyond the filter. -/
  | queryTermsIgnored (ctx : LogContext) (terms : List String)
  /-- A request is complete. -/
  | searchPrepared (ctx : LogContext) (index : String) (filters aggregations totals : Nat)
  /-- An inquiry is about to be compiled. -/
  | queryReceived (ctx : LogContext) (start stop : Calendar.Instant) (breakdowns : Nat)
      (interval : Interval)
  /-- An inquiry is refused. -/
  | queryRejected (ctx : LogContext) (error : RequestError)
  /-- A setting cannot be used. -/
  | configValueIgnored (key value : String)
deriving DecidableEq

namespace LogRecord

/-- How much each record matters. -/
def level : LogRecord → LogLevel
  | aggregationBuilt .. | queryTermsIgnored .. => .debug
  | searchPrepared .. | queryReceived .. => .info
  | reportFieldNotNumeric .. | reportOperationUnknown .. | totalSkipped .. | breakdownBlank ..
  | breakdownRepeated .. | queryRejected .. | configValueIgnored .. => .warn

/-- The wording of each record. -/
def message : LogRecord → String
  | aggregationBuilt ctx name depth =>
      ctx.display ++ " AGGREGATION_BUILT name=" ++ name ++ " depth=" ++ toString depth
  | reportFieldNotNumeric ctx field operation chain =>
      ctx.display ++ " REPORT_FIELD_NOT_NUMERIC field=" ++ Text.quote field ++ " op=" ++
        Text.quote operation ++ " breakdown=" ++ Text.quote chain ++ " "
  | reportOperationUnknown ctx field operation known =>
      ctx.display ++ " REPORT_OP_UNKNOWN field=" ++ Text.quote field ++ " op=" ++
        Text.quote operation ++ " known=" ++ Text.quoteList known ++ " "
  | totalSkipped name => "TOTAL_COUNT_SKIPPED reason=name_taken_by_breakdown name=" ++ name
  | breakdownBlank ctx => ctx.display ++ " BREAKDOWN_SKIPPED reason=null_or_blank"
  | breakdownRepeated ctx name =>
      ctx.display ++ " BREAKDOWN_SKIPPED reason=duplicate_name name=" ++ name
  | queryTermsIgnored ctx terms =>
      ctx.display ++ " QUERY_TERMS_IGNORED terms=" ++ Text.quoteList terms ++ " "
  | searchPrepared ctx index filters aggregations totals =>
      ctx.display ++ " SEARCH_PREPARED index=" ++ index ++ " filters=" ++ toString filters ++
        " aggregations=" ++ toString aggregations ++ " totals=" ++ toString totals
  | queryReceived ctx start stop breakdowns interval =>
      ctx.display ++ " QUERY_RECEIVED start=" ++ start.stampOffset ++ " end=" ++
        stop.stampOffset ++ " breakdowns=" ++ toString breakdowns ++ " interval=" ++
        interval.render
  | queryRejected ctx error => ctx.display ++ " QUERY_REJECTED error=" ++ error.message
  | configValueIgnored key value =>
      "CONFIG_VALUE_IGNORED key=" ++ key ++ " value=" ++ Text.quote value

/-- A record with its level. -/
def line (r : LogRecord) : String := r.level.name ++ " " ++ r.message

end LogRecord

/-- A result and what was reported on the way to it. -/
structure Logged (α : Type) where
  records : List LogRecord
  value : α

namespace Logged

variable {α β : Type}

/-- A result with nothing to report. -/
def quiet (value : α) : Logged α := ⟨[], value⟩

/-- The result with records in front of its own. -/
def after (l : Logged α) (records : List LogRecord) : Logged α := ⟨records ++ l.records, l.value⟩

/-- The result changed, the records kept. -/
def map (f : α → β) (l : Logged α) : Logged β := ⟨l.records, f l.value⟩

@[simp] theorem value_quiet (value : α) : (quiet value).value = value := rfl

@[simp] theorem records_quiet (value : α) : (quiet value).records = [] := rfl

@[simp] theorem value_after (l : Logged α) (records : List LogRecord) :
    (l.after records).value = l.value := rfl

@[simp] theorem records_after (l : Logged α) (records : List LogRecord) :
    (l.after records).records = records ++ l.records := rfl

@[simp] theorem value_map (f : α → β) (l : Logged α) : (l.map f).value = f l.value := rfl

@[simp] theorem records_map (f : α → β) (l : Logged α) : (l.map f).records = l.records := rfl

end Logged

end Rollup
