import Rollup.Calendar.Instant
import Rollup.Json.Error

/-!
# Errors

What can be wrong with an event, with a breakdown and with a request, as
causes. The wording of each is one function beside it.
-/

namespace Rollup

/-- Why an event is refused. -/
inductive EventError
  | emptyDataspace
  | invalidDataspace (name : String)
  | blankEventType
  | nonFiniteCount (count : Binary64)
  | nonFiniteProperty (key : String) (value : Binary64)
deriving DecidableEq

/-- Why a breakdown expression is no breakdown. -/
inductive BreakdownError
  /-- Something follows the report, or the report does not end. -/
  | malformed (breakdown : String)
  | invalidField (breakdown field : String)
  | malformedReport (breakdown : String) (cause : Json.ReadError)
  | emptyChain
deriving DecidableEq

/-- Why a request is refused. -/
inductive RequestError
  | event (cause : EventError)
  | breakdown (cause : BreakdownError)
  | invalidTimeRange (start stop : Calendar.Instant)
  | invalidTimestamp (value reason : String)
  | invalidInterval (text : String)
  | malformedRequest (cause : Json.ReadError)
deriving DecidableEq

/-- The wording of an error. -/
def EventError.message : EventError → String
  | emptyDataspace => "dataspace must not be empty"
  | invalidDataspace name =>
      "invalid dataspace " ++ Text.quote name ++ ": must not contain '/'"
  | blankEventType => "event type must not be blank"
  | nonFiniteCount count => "count must be finite, got " ++ String.ofList count.plain
  | nonFiniteProperty key value =>
      "property " ++ Text.quote key ++ " must be finite, got " ++ String.ofList value.plain

/-- The wording of an error. -/
def BreakdownError.message : BreakdownError → String
  | malformed breakdown =>
      "breakdown " ++ Text.quote breakdown ++ " does not match field(/field)* [\x7bjson\x7d]"
  | invalidField breakdown field =>
      "breakdown " ++ Text.quote breakdown ++ " has invalid field " ++ Text.quote field
  | malformedReport breakdown cause =>
      "breakdown " ++ Text.quote breakdown ++ " has a malformed report spec: " ++ cause.message
  | emptyChain => "breakdown has no bucket fields"

/-- The wording of an error. -/
def RequestError.message : RequestError → String
  | event cause => "invalid event data: " ++ cause.message
  | breakdown cause => "invalid breakdown: " ++ cause.message
  | invalidTimeRange start stop =>
      "time window start " ++ start.stampOffset ++ " is not before end " ++ stop.stampOffset
  | invalidTimestamp value reason => "invalid timestamp " ++ Text.quote value ++ ": " ++ reason
  | invalidInterval text => "invalid interval " ++ Text.quote text
  | malformedRequest cause => "malformed request: " ++ cause.message

end Rollup
