import Rollup.Dataspace
import Rollup.Field
import Rollup.Property
import Rollup.Sha256

/-!
# Events

An event is one measurement: a type, a count and properties, in a dataspace.
Its identity covers all of that but the count, and never the time, so that
observing the same thing again updates one document.

The document of an event is compact. Common properties are fields; the others
are records in a list, each with `n` for a number or `v` for a text, and texts
that carry no information are left out of it.
-/

namespace Rollup

/-- The identity of an event. Without properties it is the event type alone. -/
def eventId (dataspace : Dataspace) (eventType : String) (props : Properties) : String :=
  if props.isEmpty then eventType
  else
    dataspace.name ++ "/" ++ eventType ++ "_" ++ Sha256.hash (String.ofList props.identityText)

/-- One measurement. What it says never changes; its time may. -/
structure Event where
  dataspace : Dataspace
  eventType : String
  count : Binary64
  props : Properties
  time : Calendar.Instant

namespace Event

/-- The first property that is a number but not finite. -/
def nonFiniteProperty? (props : Properties) : Option (String × Binary64) :=
  props.entries.findSome? fun (key, value) => value.nonFinite?.map (key, ·)

/-- Makes an event. Its type is not blank and its numbers are finite. -/
def make (dataspace : String) (count : Binary64) (eventType : String) (props : Properties)
    (time : Calendar.Instant) : Except EventError Event := do
  let dataspace ← Dataspace.ofText dataspace
  if Text.allBlank eventType.toList then throw .blankEventType
  if !count.isFinite then throw (.nonFiniteCount count)
  match nonFiniteProperty? props with
  | some (key, value) => throw (.nonFiniteProperty key value)
  | none => return ⟨dataspace, eventType, count, props, time⟩

/-- Makes an event that occurred once and has no properties. -/
def makeSimple (dataspace eventType : String) (time : Calendar.Instant) :
    Except EventError Event :=
  make dataspace (.ofInt 1) eventType ∅ time

/-- The identity of an event. -/
def id (e : Event) : String := eventId e.dataspace e.eventType e.props

/-- The event at another time. -/
def setTime (e : Event) (time : Calendar.Instant) : Event := { e with time }

/-- An event on one line, for people. -/
def display (e : Event) : String :=
  "Event[id=" ++ e.id ++ " dataspace=" ++ e.dataspace.name ++ " type=" ++ e.eventType ++
    " count=" ++ String.ofList e.count.plain ++ " props=" ++ toString e.props.size ++ "]"

/-- The fields of the common properties that the event has. -/
def commonMembers (props : Properties) : List (String × Json) :=
  Field.common.filterMap fun (name, _) => (props.get? name).map fun value => (name, value.toJson)

/-- The record of a property that is not common. -/
def record? (key : String) : PropValue → Option Json
  | .number x => some (.ofMembers [("k", .string key), ("n", .ofBinary64 x)])
  | .text s =>
      if (PropValue.text s).isTruthy then some (.ofMembers [("k", .string key), ("v", .string s)])
      else none

/-- The records of the properties that are not common. -/
def records (props : Properties) : List Json :=
  props.entries.filterMap fun (key, value) =>
    if Field.isCommon key then none else record? key value

/-- The document of an event. The index it goes to gives the dataspace. -/
def document (e : Event) : Json :=
  let fixed : List (String × Json) :=
    [(Field.eventType, .string e.eventType), (Field.time, .string e.time.stampSecond),
      (Field.count, .ofBinary64 e.count)]
  if e.props.isEmpty then .ofMembers fixed
  else .ofMembers (fixed ++ commonMembers e.props ++ [(Field.props, .array (records e.props))])

end Event

end Rollup
