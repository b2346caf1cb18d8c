import Rollup.Proofs.Calendar.Stamp
import Rollup.Proofs.Event.Members
import Rollup.Proofs.Except
import Rollup.Proofs.Json.Occurs

/-!
# The document of an event can be read

A document is read by looking its keys up. What it tells of an event is all of
it but the fraction of the second and the texts without information that are
not common: a number and a text are told apart by the key in their record or by
the kind of their JSON value, and the list and the common properties together
are one dictionary again, because no name is in both.

A number is finite when an event is made, and that alone keeps `null` out.
-/

namespace Rollup

namespace Json

theorem ofBinary64_of_isFinite {x : Binary64} (h : x.isFinite = true) :
    ofBinary64 x = .double x := by
  cases x with
  | finite => rfl
  | infinite => cases h
  | nan => cases h

end Json

/-! ## Numbers that are finite -/

/-- A number is finite; a text always is. -/
def PropValue.Finite (value : PropValue) : Prop := value.nonFinite? = none

namespace PropValue

theorem Finite.isFinite {x : Binary64} (h : (number x).Finite) : x.isFinite = true := by
  rw [Finite, nonFinite?] at h
  split at h
  · assumption
  · cases h

theorem Finite.not_occurs_null {value : PropValue} (h : value.Finite) :
    ¬ Json.Occurs .null value.toJson := by
  cases value with
  | number x =>
      rw [toJson, Json.ofBinary64_of_isFinite h.isFinite]
      exact Json.not_occurs_double nofun
  | text s => exact Json.not_occurs_string nofun

/-- The value of a property, from a document. -/
def ofDocument? : Json → Option PropValue
  | .double x => some (number x)
  | .string s => some (text s)
  | _ => none

theorem Finite.ofDocument?_toJson {value : PropValue} (h : value.Finite) :
    ofDocument? value.toJson = some value := by
  cases value with
  | number x =>
      rw [toJson, Json.ofBinary64_of_isFinite h.isFinite]
      rfl
  | text s => rfl

end PropValue

/-! ## Reading a document -/

namespace Json

/-- The characters of a text. -/
def text? : Json → Option String
  | .string s => some s
  | _ => none

/-- The number of a double. -/
def double? : Json → Option Binary64
  | .double x => some x
  | _ => none

end Json

namespace Event

/-- What a document tells of an event. Without `props` there are no properties. -/
structure Reading where
  eventType : String
  count : Binary64
  time : Calendar.Instant
  props : Option Properties

/-- The property of a record: a number is under `n` and a text under `v`, never both. -/
def readRecord? (item : Json) : Option (String × PropValue) := do
  let members ← item.members?
  let key ← (← Entries.get? "k" members).text?
  match Entries.get? "n" members, Entries.get? "v" members with
  | some number, none => return (key, .number (← number.double?))
  | none, some text => return (key, .text (← text.text?))
  | _, _ => none

/-- The common properties among the members of a document. -/
def readCommon (members : Entries Json) : Entries PropValue :=
  Entries.pick (fun name => Entries.get? name members >>= PropValue.ofDocument?)
    (Field.common.map Prod.fst)

/-- All properties of a document, if it has any. -/
def readProps? (members : Entries Json) : Option (Option Properties) :=
  match Entries.get? Field.props members with
  | none => some none
  | some listed => do
      let records ← (← listed.items?).mapM readRecord?
      return some (.ofPairs (readCommon members ++ records))

/-- Reads a document. -/
def read? (document : Json) : Option Reading := do
  let members ← document.members?
  let eventType ← (← Entries.get? Field.eventType members).text?
  let time ← Calendar.Instant.ofStampSecond? (← (← Entries.get? Field.time members).text?).toList
  let count ← (← Entries.get? Field.count members).double?
  return ⟨eventType, count, time, ← readProps? members⟩

theorem readRecord?_propertyRecord {entry : String × PropValue} (h : entry.2.Finite) :
    readRecord? (propertyRecord entry) = some entry := by
  obtain ⟨key, value⟩ := entry
  cases value with
  | number x =>
      have hnodup : ["k", "n"].Nodup := by decide
      rw [propertyRecord, PropValue.toJson, Json.ofBinary64_of_isFinite h.isFinite]
      simp [readRecord?, Json.ofMembers, Json.members?, Entries.get?_ofPairs, hnodup,
        Entries.get?_cons, Json.text?, Json.double?]
  | text s =>
      have hnodup : ["k", "v"].Nodup := by decide
      simp [propertyRecord, PropValue.toJson, readRecord?, Json.ofMembers, Json.members?,
        Entries.get?_ofPairs, hnodup, Entries.get?_cons, Json.text?]

theorem mapM_readRecord? {entries : Entries PropValue} (h : ∀ entry ∈ entries, entry.2.Finite) :
    (entries.map propertyRecord).mapM readRecord? = some entries := by
  induction entries with
  | nil => rfl
  | cons entry rest ih =>
      have hrest := ih fun other hother => h other (List.mem_cons_of_mem _ hother)
      rw [List.map_cons, List.mapM_cons, readRecord?_propertyRecord (h entry List.mem_cons_self),
        hrest]
      rfl

/-! ## Events that are made -/

/-- A number of an event is finite, be it the count or a property. -/
structure Finite (e : Event) : Prop where
  count : e.count.isFinite = true
  props : ∀ entry ∈ e.props.entries, entry.2.Finite

theorem finite_of_nonFiniteProperty? {props : Properties} (h : nonFiniteProperty? props = none) :
    ∀ entry ∈ props.entries, entry.2.Finite := by
  intro entry hentry
  have hnone := List.findSome?_eq_none_iff.mp h entry hentry
  exact Option.map_eq_none_iff.mp hnone

/-- An event is made of a valid dataspace, a type that is not blank and finite numbers, and of
nothing else. -/
theorem make_eq_ok_iff {dataspace eventType : String} {count : Binary64} {props : Properties}
    {now : Calendar.Instant} {e : Event} :
    make dataspace count eventType props now = .ok e ↔
      ∃ d, Dataspace.ofText dataspace = .ok d ∧ Text.allBlank eventType.toList = false ∧
        count.isFinite = true ∧ nonFiniteProperty? props = none ∧
        e = ⟨d, eventType, count, props, now⟩ := by
  rw [make, Except.bind_eq_ok]
  refine exists_congr fun d => and_congr_right fun _ => ?_
  cases hblank : Text.allBlank eventType.toList with
  | true => simp [throw, throwThe, MonadExceptOf.throw, bind, Except.bind]
  | false =>
      cases hcount : count.isFinite with
      | false => simp [throw, throwThe, MonadExceptOf.throw, bind, Except.bind]
      | true =>
          cases hprops : nonFiniteProperty? props with
          | some found => simp [throw, throwThe, MonadExceptOf.throw]
          | none => simp [pure, Except.pure, eq_comm]

/-- An event that is made is finite and holds what it was made of. -/
theorem make_eq_ok {dataspace eventType : String} {count : Binary64} {props : Properties}
    {now : Calendar.Instant} {e : Event}
    (h : make dataspace count eventType props now = .ok e) :
    e.Finite ∧ e.eventType = eventType ∧ e.count = count ∧ e.props = props := by
  obtain ⟨d, -, -, hcount, hprops, rfl⟩ := make_eq_ok_iff.mp h
  exact ⟨⟨hcount, finite_of_nonFiniteProperty? hprops⟩, rfl, rfl, rfl⟩

theorem Finite.get? {e : Event} (h : e.Finite) {key : String} {value : PropValue}
    (hvalue : e.props.get? key = some value) : value.Finite :=
  h.props _ (Entries.mem_of_get? hvalue)

/-! ## Reading what was written -/

theorem member?_of_isCommon {key : String} (h : Field.isCommon key = true) (e : Event) :
    e.member? key = (e.props.get? key).map PropValue.toJson := by
  have hne : ∀ name, Field.isCommon name = false → key ≠ name := by
    rintro _ hname rfl
    rw [h] at hname
    cases hname
  obtain ⟨htype, htime, hcount, hprops⟩ := Field.isCommon_fixed
  rw [member?, if_neg (hne _ htype), if_neg (hne _ htime), if_neg (hne _ hcount),
    if_neg (hne _ hprops), if_pos h]

/-- The common properties of a document are those of the event. -/
theorem get?_readCommon {e : Event} (h : e.Finite) (key : String) :
    Entries.get? key (readCommon (Entries.ofPairs e.members)) =
      if Field.isCommon key then e.props.get? key else none := by
  rw [readCommon, Entries.get?_pick, get?_members, if_congr isCommon_iff.symm rfl rfl]
  split
  · next hcommon =>
      rw [member?_of_isCommon hcommon]
      cases hvalue : e.props.get? key with
      | none => rfl
      | some value => exact (h.get? hvalue).ofDocument?_toJson
  · rfl

theorem get?_listed (props : Properties) (key : String) :
    Entries.get? key props.listed =
      if Field.isCommon key then none else props.informative.get? key := by
  rw [Properties.listed, Entries.get?_filter props.informative.ascending.keys_nodup]
  cases hkey : Field.isCommon key with
  | true => cases Entries.get? key props.informative.entries <;> simp [hkey]
  | false =>
      cases hvalue : Entries.get? key props.informative.entries <;> simp [hkey, hvalue, Dict.get?]

/-- Common and listed properties together are the informative ones. -/
theorem ofPairs_readCommon_append {e : Event} (h : e.Finite) :
    Dict.ofPairs (readCommon (Entries.ofPairs e.members) ++ e.props.listed) =
      e.props.informative := by
  refine Dict.ext (Entries.Ascending.ext_get? (Entries.ascending_ofPairs _)
    e.props.informative.ascending fun key => ?_)
  have hcommon : ((readCommon (Entries.ofPairs e.members)).map Prod.fst).Sublist
      (Field.common.map Prod.fst) := Entries.keys_pick_sublist _ _
  have hlisted : e.props.listed.Ascending := e.props.informative.ascending.filter _
  have hnodup : ((readCommon (Entries.ofPairs e.members) ++ e.props.listed).map
      Prod.fst).Nodup := by
    rw [List.map_append]
    refine List.nodup_append.mpr ⟨Field.common_nodup.sublist hcommon, hlisted.keys_nodup, ?_⟩
    rintro key hkey _ hkey' rfl
    obtain ⟨entry, hentry, rfl⟩ := List.mem_map.mp hkey'
    have hnot := (List.mem_filter.mp hentry).2
    rw [isCommon_iff.mpr (hcommon.subset hkey)] at hnot
    cases hnot
  rw [Dict.ofPairs, Entries.get?_ofPairs hnodup, Entries.get?_append, get?_readCommon h,
    get?_listed]
  show _ = e.props.informative.get? key
  cases hkey : Field.isCommon key with
  | true =>
      rw [Properties.get?_informative, hkey]
      cases e.props.get? key <;> rfl
  | false => simp

theorem finite_of_listed {e : Event} (h : e.Finite) : ∀ entry ∈ e.props.listed, entry.2.Finite :=
  fun entry hentry => h.props entry (List.mem_of_mem_filter (List.mem_of_mem_filter hentry))

theorem readProps?_members {e : Event} (h : e.Finite) :
    readProps? (Entries.ofPairs e.members) =
      some (if e.props.isEmpty then none else some e.props.informative) := by
  have hprops : e.member? Field.props =
      if e.props.isEmpty then none else some (.array (e.props.listed.map propertyRecord)) := rfl
  rw [readProps?, get?_members, hprops]
  cases e.props.isEmpty with
  | true => rfl
  | false =>
      show (List.mapM readRecord? _ >>= _) = _
      rw [mapM_readRecord? (finite_of_listed h)]
      show some (some (Dict.ofPairs _)) = _
      rw [ofPairs_readCommon_append h]
      rfl

theorem read?_document {e : Event} (h : e.Finite) :
    read? e.document = some ⟨e.eventType, e.count, e.time.wholeSecond,
      if e.props.isEmpty then none else some e.props.informative⟩ := by
  have htype : Entries.get? Field.eventType (Entries.ofPairs e.members) =
      some (.string e.eventType) := get?_members e _
  have htime : Entries.get? Field.time (Entries.ofPairs e.members) =
      some (.string e.time.stampSecond) := get?_members e _
  have hcount : Entries.get? Field.count (Entries.ofPairs e.members) =
      some (.double e.count) := by
    rw [← Json.ofBinary64_of_isFinite h.count]
    exact get?_members e _
  rw [document_eq, Json.ofMembers, read?]
  simp only [Json.members?, Option.bind_eq_bind, Option.bind_some, htype, htime, hcount, Json.text?,
    Json.double?, Calendar.Instant.ofStampSecond?_stampSecond, readProps?_members h]
  rfl

/-! ## No null -/

theorem not_occurs_null_propertyRecord {entry : String × PropValue} (h : entry.2.Finite) :
    ¬ Json.Occurs .null (propertyRecord entry) := by
  refine Json.not_occurs_ofMembers nofun fun member hmember => ?_
  rcases List.mem_pair.mp hmember with rfl | rfl
  · exact Json.not_occurs_string nofun
  · exact h.not_occurs_null

theorem not_occurs_null_member {e : Event} (h : e.Finite) {key : String} {value : Json}
    (hvalue : e.member? key = some value) : ¬ Json.Occurs .null value := by
  rw [member?] at hvalue
  split at hvalue
  · cases hvalue
    exact Json.not_occurs_string (by simp)
  split at hvalue
  · cases hvalue
    exact Json.not_occurs_string (by simp)
  split at hvalue
  · cases hvalue
    rw [Json.ofBinary64_of_isFinite h.count]
    exact Json.not_occurs_double (by simp)
  split at hvalue
  · split at hvalue
    · cases hvalue
    · cases hvalue
      refine Json.not_occurs_array (by simp) fun item hitem => ?_
      obtain ⟨entry, hentry, rfl⟩ := List.mem_map.mp hitem
      exact not_occurs_null_propertyRecord (finite_of_listed h entry hentry)
  split at hvalue
  · obtain ⟨prop, hprop, rfl⟩ := Option.map_eq_some_iff.mp hvalue
    exact (h.get? hprop).not_occurs_null
  · cases hvalue

theorem not_occurs_null_document {e : Event} (h : e.Finite) :
    ¬ Json.Occurs .null e.document := by
  rw [document_eq]
  rintro (_ | _ | ⟨hmem, hinner⟩)
  rename_i entry
  have hfound := (Entries.ascending_ofPairs e.members).get?_of_mem hmem
  rw [get?_members] at hfound
  exact not_occurs_null_member h hfound hinner

/-- The document of an event, at any time, can be read. It tells the event type, the count, the
time to the second, whether there are properties, and all properties but the empty texts and texts
`false` that are not common. Under each key is what `member?` says, so a common property is a field
and no property replaces a fixed one; the others have one record each, in the order of their keys.
Nothing in it is `null`. -/
theorem read?_document_of_make {dataspace eventType : String} {count : Binary64}
    {props : Properties} {now : Calendar.Instant} {e : Event}
    (h : make dataspace count eventType props now = .ok e) (time : Calendar.Instant) :
    read? (e.setTime time).document = some ⟨eventType, count, time.wholeSecond,
        if props.isEmpty then none else some props.informative⟩ ∧
      (∀ key value, props.informative.get? key = some value ↔ props.get? key = some value ∧
        (Field.isCommon key = true ∨ value ≠ .text "" ∧ value ≠ .text "false")) ∧
      (∃ members : Dict Json, (e.setTime time).document = .object members.entries ∧
        ∀ key, members.get? key = (e.setTime time).member? key) ∧
      (props.listed.Ascending ∧ ∀ entry, entry ∈ props.listed ↔
        entry ∈ props.informative.entries ∧ Field.isCommon entry.1 = false) ∧
      ¬ Json.Occurs .null (e.setTime time).document := by
  obtain ⟨hfinite, rfl, rfl, rfl⟩ := make_eq_ok h
  have hset : (e.setTime time).Finite := ⟨hfinite.count, hfinite.props⟩
  refine ⟨read?_document hset, e.props.get?_informative_iff,
    ⟨Dict.ofPairs (e.setTime time).members, document_eq _, get?_members (e.setTime time)⟩,
    ⟨e.props.informative.ascending.filter _, fun entry => ?_⟩, not_occurs_null_document hset⟩
  simp [Properties.listed]

/-- Properties with the names of fixed fields, and texts without information under a common name and
under others. -/
def clashing : Properties :=
  .ofPairs [("eventType", .text "other"), ("props", .number (.ofInt 3)), ("tag", .text "false"),
    ("flag", .text "false"), ("empty", .text "")]

/-- The leap second at the end of 2016, and half a second. -/
def leapSecond : Calendar.Instant :=
  ⟨17166, 86399, 1500000000, by decide, by decide, by decide, by decide, by decide⟩

theorem read?_document_clashing :
    ∃ e, make "default" (.ofInt 7) "simple" clashing leapSecond = .ok e ∧
      read? (e.setTime leapSecond).document =
        some ⟨"simple", .ofInt 7, leapSecond.wholeSecond, some clashing.informative⟩ ∧
      clashing.informative.keys = ["eventType", "props", "tag"] ∧
      ¬ Json.Occurs .null (e.setTime leapSecond).document := by
  obtain ⟨e, he⟩ : ∃ e, make "default" (.ofInt 7) "simple" clashing leapSecond = .ok e :=
    ⟨_, rfl⟩
  obtain ⟨hread, -, -, -, hnull⟩ := read?_document_of_make he leapSecond
  exact ⟨e, he, hread, by decide +kernel, hnull⟩

end Event

end Rollup
