/-!
# Event fields

The fields of an event document. A fixed, closed set of common properties is
promoted to fields of their own, which keep a type in the index; every other
property goes into the list under `props`, so the number of indexed fields
stays bounded.
-/

namespace Rollup.Field

/-- How a field is indexed. -/
inductive Kind
  | numeric
  | keyword
  | date
deriving DecidableEq, Repr

/-- The field of the event type. -/
def eventType : String := "eventType"

/-- The field of the event time. -/
def time : String := "time"

/-- The field of the count. -/
def count : String := "count"

/-- The field of the properties that are not common. -/
def props : String := "props"

/-- The common properties and how each is indexed. -/
def common : List (String × Kind) := [
  ("ip", .keyword), ("user", .keyword), ("url", .keyword), ("domain", .keyword),
  ("tag", .keyword), ("action", .keyword), ("verb", .keyword), ("as", .keyword),
  ("id", .keyword), ("xid", .keyword), ("oxid", .keyword), ("txid", .keyword),
  ("uxid", .keyword), ("su", .keyword),
  ("start", .numeric), ("end", .numeric), ("dt", .numeric),
  ("note", .keyword), ("notes", .keyword),
  ("score", .numeric), ("x", .numeric), ("y", .numeric), ("z", .numeric),
  ("lat", .numeric), ("lng", .numeric)]

/-- Whether a property is promoted to a field. -/
def isCommon (name : String) : Bool := common.any fun entry => entry.1 = name

/-- How a field of that name is indexed, if it has a fixed type. -/
def kind? (name : String) : Option Kind :=
  if name = count then some .numeric
  else if name = time then some .date
  else if name = eventType then some .keyword
  else (common.find? fun entry => entry.1 = name).map Prod.snd

/-- Whether a field holds numbers. -/
def isNumeric (name : String) : Bool := kind? name = some .numeric

/-- The four fields that every event may have are no common properties. -/
theorem isCommon_fixed :
    isCommon eventType = false ∧ isCommon time = false ∧ isCommon count = false ∧
      isCommon props = false := by decide

/-- No common property is listed twice. -/
theorem common_nodup : (common.map Prod.fst).Nodup := by decide

end Rollup.Field
