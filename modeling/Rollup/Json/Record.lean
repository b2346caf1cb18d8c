import Rollup.Json.Skip

/-!
# Reading records

A record with fixed fields is written as an object or, giving all its fields in
their order, as an array. In an object a field may come under any of its names
but only once, unknown members are skipped, and fields may be left out unless
they are required.
-/

namespace Rollup.Json

/-- One field of a record of type `σ`. -/
structure Field (σ : Type) where
  /-- The name that errors give it. -/
  name : String
  /-- Other names it goes by. -/
  aliases : List String
  /-- Whether an object has to have it. -/
  required : Bool
  /-- Whether an array may end before it. -/
  defaulted : Bool
  /-- Reads the value into the record. -/
  read : σ → Reader σ

namespace Field

variable {σ : Type}

/-- Whether a member of that key is this field. -/
def isNamed (field : Field σ) (key : String) : Bool := key = field.name || field.aliases.contains key

end Field

section

variable {σ : Type}

/-- Reads a member of a record written as an object; the names of the fields that were read are
kept beside the record. -/
def readField (fields : List (Field σ)) (acc : σ × List String) (key : String) (cs : List Char) :
    Except ReadError (Cut (σ × List String)) :=
  match fields.find? fun field => field.isNamed key with
  | some field =>
      if acc.2.contains field.name then .error (.duplicateField field.name)
      else do
        let (value, rest) ← field.read acc.1 (← readColon cs)
        return ((value, field.name :: acc.2), rest)
  | none => do return (acc, ← skipValue (← readColon cs))

/-- The record that was read from an object, if no required field is missing. -/
def checkRequired (fields : List (Field σ)) (acc : σ × List String) : Except ReadError σ :=
  match fields.find? fun field => field.required && !acc.2.contains field.name with
  | some field => .error (.missingField field.name)
  | none => .ok acc.1

/-- The characters where the next item of an array starts, or nothing at its end. -/
def nextItem (first : Bool) (cs : List Char) : Except ReadError (Option (List Char)) :=
  match skipBlanks cs with
  | [] => .error (.unfinished .list)
  | c :: rest =>
      if c = ']' then .ok none
      else if first then .ok (some (c :: rest))
      else if c = ',' then
        match skipBlanks rest with
        | [] => .error (.unfinished .value)
        | d :: rest => if d = ']' then .error .trailingComma else .ok (some (d :: rest))
      else .error .expectedCommaOrBracket

/-- Reads the fields of a record written as an array, in order. `index` counts those before. -/
def readFields (record : String) (total : Nat) :
    Nat → List (Field σ) → σ → Reader σ
  | _, [], acc, cs => .ok (acc, cs)
  | index, field :: fields, acc, cs => do
      match ← nextItem (index == 0) cs with
      | some cs =>
          let (acc, rest) ← field.read acc cs
          readFields record total (index + 1) fields acc rest
      | none =>
          if field.defaulted then readFields record total (index + 1) fields acc cs
          else throw (.wrongLength index record total)

/-- The characters after the closing bracket of a record that has all its fields. -/
def closeFields (cs : List Char) : Except ReadError (List Char) :=
  match skipBlanks cs with
  | [] => .error (.unfinished .list)
  | c :: rest =>
      if c = ']' then .ok rest
      else if c = ',' then
        match skipBlanks rest with
        | ']' :: _ => .error .trailingComma
        | _ => .error .trailingCharacters
      else .error .trailingCharacters

/-- Reads a record in either form. -/
def readRecord (record : String) (fields : List (Field σ)) (empty : σ) (cs : List Char) :
    Except ReadError (Cut σ) :=
  match skipBlanks cs with
  | [] => .error (.unfinished .value)
  | c :: rest =>
      if c = '\x7b' then do
        let (acc, rest) ← readObject (readField fields) (empty, []) rest
        return (← checkRequired fields acc, rest)
      else if c = '[' then do
        let (acc, rest) ← readFields record fields.length 0 fields empty rest
        return (acc, ← closeFields rest)
      else .error (wrongTypeAt (.record record) (c :: rest))

end

end Rollup.Json
