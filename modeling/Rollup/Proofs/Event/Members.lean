import Rollup.Event
import Rollup.Proofs.Entries

/-!
# What stands in the document of an event

Four things are written into one object: the fixed fields, the common
properties, the list of all other properties, and nothing for the texts that
carry no information. They do not meet. The names of the common properties are
a closed list without the fixed ones, and a property of any other name is a
record in the list, whatever it is called. So no key is put in twice, and the
object holds under each key what one of the writers put there.
-/

namespace Rollup

/-! ## Properties that a document keeps -/

namespace Properties

/-- The properties that a document keeps: the common ones, and of the others those that carry
information. -/
def informative (props : Properties) : Properties :=
  ⟨props.entries.filter fun entry => Field.isCommon entry.1 || entry.2.isTruthy,
    props.ascending.filter _⟩

theorem get?_informative (props : Properties) (key : String) :
    props.informative.get? key =
      (props.get? key).filter fun value => Field.isCommon key || value.isTruthy :=
  Entries.get?_filter props.ascending.keys_nodup _ key

theorem isTruthy_iff (value : PropValue) :
    value.isTruthy = true ↔ value ≠ .text "" ∧ value ≠ .text "false" := by
  cases value with
  | number x => simp [PropValue.isTruthy]
  | text s => simp [PropValue.isTruthy]

/-- Only the empty text and `false` are left out, and only where the property is not common. -/
theorem get?_informative_iff (props : Properties) (key : String) (value : PropValue) :
    props.informative.get? key = some value ↔ props.get? key = some value ∧
      (Field.isCommon key = true ∨ value ≠ .text "" ∧ value ≠ .text "false") := by
  rw [get?_informative, Option.filter_eq_some_iff, Bool.or_eq_true, isTruthy_iff]

/-- The properties of a document that are not common, in order. -/
def listed (props : Properties) : Entries PropValue :=
  props.informative.entries.filter fun entry => !Field.isCommon entry.1

end Properties

/-! ## The writers -/

namespace Event

/-- The record of a property: its name, and `n` for a number or `v` for a text. -/
def propertyRecord (entry : String × PropValue) : Json :=
  .ofMembers [("k", .string entry.1),
    (match entry.2 with
      | .number _ => "n"
      | .text _ => "v", entry.2.toJson)]

theorem record?_eq (key : String) (value : PropValue) :
    record? key value = if value.isTruthy then some (propertyRecord (key, value)) else none := by
  cases value with
  | number x => rfl
  | text s => rfl

/-- The records are those of the informative properties that are not common. -/
theorem records_eq (props : Properties) :
    records props = (Properties.listed props).map propertyRecord := by
  rw [records, Properties.listed, Properties.informative, List.filter_filter]
  generalize props.entries = entries
  induction entries with
  | nil => rfl
  | cons entry rest ih =>
      obtain ⟨key, value⟩ := entry
      rw [List.filterMap_cons, List.filter_cons, ih]
      cases hcommon : Field.isCommon key with
      | true => simp [hcommon]
      | false =>
          cases htruthy : value.isTruthy <;> simp [hcommon, htruthy, record?_eq]

theorem commonMembers_eq (props : Properties) :
    commonMembers props =
      Entries.pick (fun name => (props.get? name).map PropValue.toJson)
        (Field.common.map Prod.fst) := by
  rw [commonMembers, Entries.pick, List.filterMap_map]
  refine List.filterMap_congr fun field _ => ?_
  show _ = Option.map _ (Option.map _ _)
  rw [Option.map_map]
  rfl

theorem isCommon_iff {key : String} :
    Field.isCommon key = true ↔ key ∈ Field.common.map Prod.fst := by
  rw [Field.isCommon, List.any_eq_true, List.mem_map]
  simp

/-! ## The members of a document -/

/-- The members that every document has. -/
def fixedMembers (e : Event) : List (String × Json) :=
  [(Field.eventType, .string e.eventType), (Field.time, .string e.time.stampSecond),
    (Field.count, .ofBinary64 e.count)]

/-- The member that only a document with properties has. -/
def listMember (props : Properties) : List (String × Json) :=
  if props.isEmpty then [] else [(Field.props, .array (props.listed.map propertyRecord))]

/-- The members of a document, in the order in which they are put in. -/
def members (e : Event) : List (String × Json) :=
  fixedMembers e ++ (commonMembers e.props ++ listMember e.props)

theorem commonMembers_of_isEmpty {props : Properties} (h : props.isEmpty = true) :
    commonMembers props = [] := by
  have hentries : props.entries = [] := List.isEmpty_iff.mp h
  refine List.filterMap_eq_nil_iff.mpr fun field _ => ?_
  show Option.map _ (Entries.get? field.1 props.entries) = none
  rw [hentries]
  rfl

theorem document_eq (e : Event) : e.document = .ofMembers e.members := by
  rw [document, members, listMember]
  split
  · next hempty =>
      rw [commonMembers_of_isEmpty hempty, List.append_nil, List.append_nil]
      rfl
  · rw [← records_eq, ← List.append_assoc]
    rfl

/-- No two members have one key: neither a property of a fixed name nor a common one is put twice. -/
theorem members_keys_nodup (e : Event) : (e.members.map Prod.fst).Nodup := by
  have hall : ([Field.eventType, Field.time, Field.count] ++
      (Field.common.map Prod.fst ++ [Field.props])).Nodup := by decide
  refine hall.sublist ?_
  rw [members, List.map_append, List.map_append]
  refine (List.Sublist.refl _).append (List.Sublist.append ?_ ?_)
  · rw [commonMembers_eq]
    exact Entries.keys_pick_sublist _ _
  · rw [listMember]
    split
    · exact List.nil_sublist _
    · exact List.Sublist.refl _

/-- What the document of an event has under a key. -/
def member? (e : Event) (key : String) : Option Json :=
  if key = Field.eventType then some (.string e.eventType)
  else if key = Field.time then some (.string e.time.stampSecond)
  else if key = Field.count then some (.ofBinary64 e.count)
  else if key = Field.props then
    if e.props.isEmpty then none else some (.array (e.props.listed.map propertyRecord))
  else if Field.isCommon key then (e.props.get? key).map PropValue.toJson
  else none

theorem get?_listMember (props : Properties) (key : String) :
    Entries.get? key (listMember props) =
      if key = Field.props then
        if props.isEmpty then none else some (.array (props.listed.map propertyRecord))
      else none := by
  rw [listMember]
  split
  · rw [ite_self]
    rfl
  · rfl

theorem get?_members (e : Event) (key : String) :
    Entries.get? key (Entries.ofPairs e.members) = e.member? key := by
  rw [Entries.get?_ofPairs (members_keys_nodup e), members, Entries.get?_append,
    Entries.get?_append, get?_listMember, commonMembers_eq, Entries.get?_pick, fixedMembers,
    member?]
  simp only [Entries.get?_cons, Entries.get?_nil, ← isCommon_iff]
  split
  · rfl
  split
  · rfl
  split
  · rfl
  split
  · next hcommon =>
      have hprops : key ≠ Field.props := by
        rintro rfl
        simp [Field.isCommon_fixed] at hcommon
      rw [if_neg hprops, if_neg hprops, Option.or_none]
      rfl
  · rfl

end Event

end Rollup
