import Rollup.Request

/-!
# Configuration

What an inquiry that leaves a setting out gets. Each setting has a default, and
most can be set from the environment; a value that cannot be used is reported
and the default stays.
-/

namespace Rollup

/-- The settings of inquiries that leave them out, and what queries may filter on. -/
structure Config where
  dataspace : String
  breakdowns : List String
  interval : Interval
  resultCeiling : Nat
  exampleCeiling : Nat
  filterableProps : List String
  indexStem : String
deriving DecidableEq

namespace Config

/-- The settings without an environment. -/
def default : Config where
  dataspace := "default"
  breakdowns := ["evt/time", "evt/host", "publisher", "host", "domain", "variant"]
  interval := .day
  resultCeiling := 10
  exampleCeiling := RequestDraft.defaultExampleCeiling
  filterableProps := RequestDraft.defaultFilterableProps
  indexStem := Dataspace.defaultStem

def dataspaceKey : String := "DATALOG_DEFAULT_DATASPACE"

def intervalKey : String := "DATALOG_DEFAULT_INTERVAL"

def resultCeilingKey : String := "DATALOG_RESULT_CEILING"

def exampleCeilingKey : String := "DATALOG_EXAMPLE_CEILING"

def filterablePropsKey : String := "DATALOG_FILTERABLE_PROPS"

/-- The environment: the value of a variable that is set. -/
abbrev Environment := String → Option String

/-- The value of a variable as `read` reads it, or the default. A value that cannot be read is
reported. -/
def setting {α : Type} (env : Environment) (key : String) (read : String → Option α)
    (default : α) : Logged α :=
  match env key with
  | none => .quiet default
  | some raw =>
      match read (Text.trimString raw) with
      | some value => .quiet value
      | none => ⟨[.configValueIgnored key raw], default⟩

/-- The dataspace, unless the variable is blank. -/
def dataspaceOf (env : Environment) : String :=
  match (env dataspaceKey).map Text.trimString with
  | some name => if name = "" then default.dataspace else name
  | none => default.dataspace

/-- Names with commas or blanks between them. -/
def splitNames (text : String) : List String :=
  ((Text.splitOn (fun c => c = ',' || Text.isBlank c) text.toList).filter (· ≠ [])).map
    String.ofList

/-- The properties that queries may filter on. -/
def filterablePropsOf (env : Environment) : List String :=
  match env filterablePropsKey with
  | some text => splitNames text
  | none => default.filterableProps

/-- The settings in an environment. -/
def ofEnvironment (env : Environment) : Logged Config :=
  let readCount (s : String) : Option Nat := Text.count? s.toList
  let interval := setting env intervalKey Interval.ofText? default.interval
  let resultCeiling := setting env resultCeilingKey readCount default.resultCeiling
  let exampleCeiling := setting env exampleCeilingKey readCount default.exampleCeiling
  ⟨interval.records ++ resultCeiling.records ++ exampleCeiling.records,
    { default with
      dataspace := dataspaceOf env
      interval := interval.value
      resultCeiling := resultCeiling.value
      exampleCeiling := exampleCeiling.value
      filterableProps := filterablePropsOf env }⟩

end Config

end Rollup
