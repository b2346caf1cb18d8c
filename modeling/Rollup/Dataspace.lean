import Rollup.Error
import Rollup.Text.Blank
import Rollup.Text.Casing

/-!
# Dataspaces

A dataspace partitions events: each has an index of its own. Its name is
trimmed and in lowercase, is not empty and holds no slash, because the slash
separates the dataspace from the rest of an event's identity.
-/

namespace Rollup

/-- The name of a dataspace. -/
structure Dataspace where
  name : String
  name_ne : name ≠ ""
  slash_not_mem : '/' ∉ name.toList
deriving DecidableEq

namespace Dataspace

/-- The text in front of the name in the name of an index. -/
def defaultStem : String := "datalog."

/-- The name that a text stands for. -/
def normalize (raw : String) : String :=
  String.ofList (Text.lowercase (Text.trim raw.toList))

/-- Reads the name of a dataspace. -/
def ofText (raw : String) : Except EventError Dataspace :=
  let name := normalize raw
  if hempty : name = "" then .error .emptyDataspace
  else if hslash : '/' ∈ name.toList then .error (.invalidDataspace name)
  else .ok ⟨name, hempty, hslash⟩

/-- The index that holds the events of a dataspace. -/
def indexName (d : Dataspace) (stem : String) : String := stem ++ d.name

end Dataspace

end Rollup
