import Rollup.Json.Record
import Rollup.Proofs.Json.Places
import Rollup.Proofs.Json.WrittenTexts

/-!
# Records

A record is read from an object in one pass, and the loop keeps what it has read
so far with the names of the fields that were read. So a record is followed
through its members by the names alone: `only names` is the record with the
fields of those names and nothing else, and a member adds its field's name. In
the end only the names count, and not their order.

The names also say what is refused. A member that is read adds its field's name,
a name that is there already is an error, and a reader stops where the value
ends, so that the loop sees every member there is. If it comes to the end, no
field came twice.
-/

namespace Rollup.Json

/-! ## The grammar -/

/-- What follows a member, and the members there: the key and the text of the value of each. -/
inductive MembersBehind : List Char → List (String × List Char) → Prop
  | close {w : List Char} : AllBlank w → MembersBehind (w ++ ['\x7d']) []
  | comma {w k w' v tail : List Char} {key : String} {members : List (String × List Char)} :
      AllBlank w → Spaced Literal k key → AllBlank w' → MembersBehind tail members →
        MembersBehind (w ++ ',' :: (k ++ ':' :: (w' ++ (v ++ tail)))) ((key, v) :: members)

/-- An object and its members. -/
inductive RecordText : List Char → List (String × List Char) → Prop
  | empty {w : List Char} : AllBlank w → RecordText ('\x7b' :: (w ++ ['\x7d'])) []
  | members {k w v tail : List Char} {key : String} {members : List (String × List Char)} :
      Spaced Literal k key → AllBlank w → MembersBehind tail members →
        RecordText ('\x7b' :: (k ++ ':' :: (w ++ (v ++ tail)))) ((key, v) :: members)

/-- Any members can be written, the keys as the writer writes them. -/
theorem exists_recordText (members : List (String × List Char)) :
    ∃ object, RecordText object members := by
  have htail : ∀ members : List (String × List Char), ∃ tail, MembersBehind tail members := by
    intro members
    induction members with
    | nil => exact ⟨_, .close .nil⟩
    | cons m members ih =>
        obtain ⟨tail, htail⟩ := ih
        exact ⟨_, .comma .nil (.of_token (literal_writeString m.1)) .nil htail⟩
  cases members with
  | nil => exact ⟨_, .empty .nil⟩
  | cons m members =>
      obtain ⟨tail, htail⟩ := htail members
      exact ⟨_, .members (.of_token (literal_writeString m.1)) .nil htail⟩

theorem MembersBehind.endsNumber {tail : List Char} {members : List (String × List Char)}
    (h : MembersBehind tail members) (rest : List Char) : EndsNumber (tail ++ rest) := by
  cases h with
  | close hw =>
      rw [List.append_assoc]
      exact .append hw (by decide) rest
  | comma hw _ _ _ =>
      rw [List.append_assoc]
      exact .append hw (by decide) _

/-! ## One round of the loop -/

section

variable {σ : Type} {member : σ → String → Reader σ} {w k : List Char} {key : String}

/-- What the loop does from behind a key. -/
def readMemberThen (member : σ → String → Reader σ) (fuel : Nat) (acc : σ) (key : String)
    (cs : List Char) : Except ReadError (Cut σ) := do
  let (acc, rest) ← member acc key cs
  readMembers member fuel false acc rest

theorem readString_spaced (hkey : Spaced Literal k key) (rest : List Char) :
    ∃ w cs, AllBlank w ∧ skipBlanks (k ++ rest) = '"' :: cs ∧
      readString cs = .ok (key, w ++ rest) := by
  obtain ⟨w, _, w', hw, hw', ⟨body, hbody, rfl⟩, rfl⟩ := hkey
  refine ⟨w', body ++ '"' :: (w' ++ rest), hw', ?_, readString_eq_ok.mpr ⟨body, hbody, rfl⟩⟩
  simp only [List.append_assoc, List.cons_append, List.nil_append]
  rw [skipBlanks_append hw, skipBlanks_cons (by decide)]

theorem readMembers_close (hw : AllBlank w) (fuel : Nat) (first : Bool) (acc : σ)
    (rest : List Char) :
    readMembers member (fuel + 1) first acc (w ++ '\x7d' :: rest) = .ok (acc, rest) := by
  rw [readMembers, skipBlanks_append hw, skipBlanks_cons (by decide)]
  rfl

theorem readMembers_first (member : σ → String → Reader σ) (hkey : Spaced Literal k key)
    (fuel : Nat) (acc : σ) (rest : List Char) :
    ∃ w, AllBlank w ∧ readMembers member (fuel + 1) true acc (k ++ rest) =
      readMemberThen member fuel acc key (w ++ rest) := by
  obtain ⟨w, cs, hw, hskip, hread⟩ := readString_spaced hkey rest
  refine ⟨w, hw, ?_⟩
  rw [readMembers, hskip]
  simp only [reduceIte, hread, show ¬ '"' = '\x7d' by decide]
  rfl

theorem readMembers_comma (member : σ → String → Reader σ) (hw : AllBlank w)
    (hkey : Spaced Literal k key) (fuel : Nat) (acc : σ) (rest : List Char) :
    ∃ w', AllBlank w' ∧ readMembers member (fuel + 1) false acc (w ++ ',' :: (k ++ rest)) =
      readMemberThen member fuel acc key (w' ++ rest) := by
  obtain ⟨w', cs, hw', hskip, hread⟩ := readString_spaced hkey rest
  refine ⟨w', hw', ?_⟩
  rw [readMembers, skipBlanks_append hw, skipBlanks_cons (by decide)]
  simp only [hskip, reduceIte, hread, show ¬ ',' = '\x7d' by decide, Bool.false_eq_true]
  rfl

end

section

variable {σ : Type} {fields : List (Field σ)}

/-- The field that a key names. -/
def namedField? (fields : List (Field σ)) (key : String) : Option (Field σ) :=
  fields.find? fun field => field.isNamed key

/-- The fields that members name. -/
def namesOf (fields : List (Field σ)) (members : List (String × List Char)) : List String :=
  members.filterMap fun m => (namedField? fields m.1).map Field.name

theorem namesOf_cons_some {m : String × List Char} {field : Field σ}
    (h : namedField? fields m.1 = some field) (members : List (String × List Char)) :
    namesOf fields (m :: members) = field.name :: namesOf fields members := by
  rw [namesOf, List.filterMap_cons, h]
  rfl

theorem namesOf_cons_none {m : String × List Char} (h : namedField? fields m.1 = none)
    (members : List (String × List Char)) :
    namesOf fields (m :: members) = namesOf fields members := by
  rw [namesOf, List.filterMap_cons, h]
  rfl

/-! ## What is read -/

variable {only : List String → σ}

/-- The text spells the field as the record has it. -/
def SpellsField (only : List String → σ) (field : Field σ) (v : List Char) : Prop :=
  ValueText v ∧ ∀ (names : List String) (w rest : List Char), AllBlank w → EndsNumber rest →
    field.read (only names) (w ++ (v ++ rest)) = .ok (only (field.name :: names), rest)

/-- A member spells its field, or is any value that nobody asked for. -/
def SpellsMember (fields : List (Field σ)) (only : List String → σ) (m : String × List Char) :
    Prop :=
  match namedField? fields m.1 with
  | some field => SpellsField only field m.2
  | none => ValueText m.2

theorem readField_spells {m : String × List Char} (hm : SpellsMember fields only m)
    {names : List String} (hfresh : ∀ name ∈ namesOf fields [m], name ∉ names) {w w' : List Char}
    (hw : AllBlank w) (hw' : AllBlank w') {rest : List Char} (hrest : EndsNumber rest) :
    readField fields (only names, names) m.1 (w ++ ':' :: (w' ++ (m.2 ++ rest))) =
      .ok ((only (namesOf fields [m] ++ names), namesOf fields [m] ++ names), rest) := by
  rw [SpellsMember] at hm
  cases hfind : namedField? fields m.1 with
  | none =>
      rw [hfind] at hm
      have hskip := skipValue_append hw' hm fun _ => hrest
      rw [namesOf_cons_none hfind]
      rw [readField]
      simp only [show fields.find? (fun field => field.isNamed m.1) = none from hfind]
      refine Except.bind_eq_ok.mpr ⟨_, readColon_append hw _, ?_⟩
      exact Except.bind_eq_ok.mpr ⟨_, hskip, rfl⟩
  | some field =>
      rw [hfind] at hm
      rw [namesOf_cons_some hfind] at hfresh ⊢
      have hname : names.contains field.name = false := by
        simpa using hfresh field.name List.mem_cons_self
      rw [readField]
      simp only [show fields.find? (fun field => field.isNamed m.1) = some field from hfind,
        hname, Bool.false_eq_true, if_false]
      refine Except.bind_eq_ok.mpr ⟨_, readColon_append hw _, ?_⟩
      exact Except.bind_eq_ok.mpr ⟨_, hm.2 names w' rest hw' hrest, rfl⟩

theorem namesOf_cons (fields : List (Field σ)) (m : String × List Char)
    (members : List (String × List Char)) :
    namesOf fields (m :: members) = namesOf fields [m] ++ namesOf fields members :=
  List.filterMap_append (l := [m])

/-- From behind a member, the loop adds the fields of the members that follow. -/
theorem readMembers_spells {tail : List Char} {members : List (String × List Char)}
    (htail : MembersBehind tail members) (hmembers : ∀ m ∈ members, SpellsMember fields only m)
    (names : List String) (hnodup : (namesOf fields members ++ names).Nodup) (rest : List Char) :
    ∀ fuel, tail.length < fuel →
      ∃ names', names'.Perm (namesOf fields members ++ names) ∧
        readMembers (readField fields) fuel false (only names, names) (tail ++ rest) =
          .ok ((only names', names'), rest) := by
  induction htail generalizing names with
  | close hw =>
      intro fuel hfuel
      obtain ⟨fuel, rfl⟩ := Nat.exists_eq_succ_of_ne_zero (Nat.ne_zero_of_lt hfuel)
      refine ⟨names, .refl _, ?_⟩
      rw [List.append_assoc]
      exact readMembers_close hw fuel false _ rest
  | @comma w k w' v tail key members hw hkey hw' htail ih =>
      intro fuel hfuel
      obtain ⟨fuel, rfl⟩ := Nat.exists_eq_succ_of_ne_zero (Nat.ne_zero_of_lt hfuel)
      obtain ⟨hm, hmembers⟩ := List.forall_mem_cons.mp hmembers
      rw [namesOf_cons] at hnodup ⊢
      -- The loop adds the name in front of those it has, so the order is not that of the members.
      have hperm : (namesOf fields members ++ (namesOf fields [(key, v)] ++ names)).Perm
          (namesOf fields [(key, v)] ++ namesOf fields members ++ names) := by
        rw [List.append_assoc]
        exact List.perm_append_comm_assoc _ _ _
      have hfresh : ∀ name ∈ namesOf fields [(key, v)], name ∉ names := by
        intro name hname hmem
        rw [List.append_assoc] at hnodup
        exact (List.nodup_append.mp hnodup).2.2 name hname name (List.mem_append_right _ hmem) rfl
      obtain ⟨names', hnames, hread⟩ := ih hmembers _ (hperm.nodup_iff.mpr hnodup) fuel (by
        simp only [List.length_append, List.length_cons] at hfuel
        omega)
      obtain ⟨w'', hw'', hstep⟩ := readMembers_comma (readField fields) hw hkey fuel
        (only names, names) (':' :: (w' ++ (v ++ (tail ++ rest))))
      refine ⟨names', hnames.trans hperm, ?_⟩
      simp only [List.append_assoc, List.cons_append]
      rw [hstep, readMemberThen]
      exact Except.bind_eq_ok.mpr
        ⟨_, readField_spells hm hfresh hw'' hw' (htail.endsNumber rest), hread⟩

theorem readObject_spells {object : List Char} {members : List (String × List Char)}
    (hobject : RecordText object members) (hmembers : ∀ m ∈ members, SpellsMember fields only m)
    (hnodup : (namesOf fields members).Nodup) (rest : List Char) :
    ∃ cs names, object ++ rest = '\x7b' :: cs ∧ names.Perm (namesOf fields members) ∧
      readObject (readField fields) (only [], []) cs = .ok ((only names, names), rest) := by
  cases hobject with
  | @empty w hw =>
      refine ⟨w ++ '\x7d' :: rest, [], by simp, .refl _, ?_⟩
      exact readMembers_close hw _ true _ rest
  | @members k w v tail key members hkey hw htail =>
      obtain ⟨hm, hmembers⟩ := List.forall_mem_cons.mp hmembers
      rw [namesOf_cons] at hnodup ⊢
      have hperm : (namesOf fields members ++ (namesOf fields [(key, v)] ++ [])).Perm
          (namesOf fields [(key, v)] ++ namesOf fields members) := by
        rw [List.append_nil]
        exact List.perm_append_comm
      obtain ⟨names, hnames, hread⟩ := readMembers_spells htail hmembers _
        (hperm.nodup_iff.mpr hnodup) rest (k ++ ':' :: (w ++ (v ++ tail)) ++ rest).length (by
          simp only [List.length_append, List.length_cons]
          omega)
      obtain ⟨w', hw', hstep⟩ := readMembers_first (readField fields) hkey
        (k ++ ':' :: (w ++ (v ++ tail)) ++ rest).length (only [], [])
        (':' :: (w ++ (v ++ (tail ++ rest))))
      refine ⟨k ++ ':' :: (w ++ (v ++ tail)) ++ rest, names, rfl, hnames.trans hperm, ?_⟩
      rw [readObject]
      simp only [List.append_assoc, List.cons_append] at hread hstep ⊢
      rw [hstep, readMemberThen]
      exact Except.bind_eq_ok.mpr
        ⟨_, readField_spells hm (fun _ _ => List.not_mem_nil) hw' hw (htail.endsNumber rest), hread⟩

/-- An object is read as the record of the fields that its members name, in any order. -/
theorem readRecord_object {object : List Char} {members : List (String × List Char)}
    (hobject : RecordText object members) (hmembers : ∀ m ∈ members, SpellsMember fields only m)
    (hnodup : (namesOf fields members).Nodup)
    (hrequired : ∀ field ∈ fields, field.required = true → field.name ∈ namesOf fields members)
    {w : List Char} (hw : AllBlank w) (record : String) (rest : List Char) :
    ∃ names, names.Perm (namesOf fields members) ∧
      readRecord record fields (only []) (w ++ (object ++ rest)) = .ok (only names, rest) := by
  obtain ⟨cs, names, hcs, hnames, hread⟩ := readObject_spells hobject hmembers hnodup rest
  have hnone : (fields.find? fun field => field.required && !names.contains field.name) = none := by
    rw [List.find?_eq_none]
    intro field hfield
    simp only [Bool.and_eq_true, Bool.not_eq_true', List.contains_eq_mem, decide_eq_false_iff_not,
      not_and, not_not]
    exact fun hreq => hnames.mem_iff.mpr (hrequired field hfield hreq)
  refine ⟨names, hnames, ?_⟩
  rw [readRecord, skipBlanks_append hw, hcs, skipBlanks_cons (by decide)]
  refine Except.bind_eq_ok.mpr ⟨_, hread, ?_⟩
  simp only [checkRequired, hnone]
  rfl

/-! ## Arrays -/

theorem nextItem_first {w v : List Char} (hw : AllBlank w) (hv : ValueText v) (rest : List Char) :
    nextItem true (w ++ (v ++ rest)) = .ok (some (v ++ rest)) := by
  obtain ⟨c, more, rfl, hc⟩ := hv.exists_cons
  rw [nextItem, skipBlanks_append hw, List.cons_append, skipBlanks_cons hc.1]
  exact if_neg hc.2.2.1

theorem nextItem_comma {w w' v : List Char} (hw : AllBlank w) (hw' : AllBlank w')
    (hv : ValueText v) (rest : List Char) :
    nextItem false (w ++ ',' :: (w' ++ (v ++ rest))) = .ok (some (v ++ rest)) := by
  rw [nextItem, skipBlanks_append hw, skipBlanks_cons (by decide)]
  simp only [skipBlanks_value hw' hv, reduceIte, show ¬ ',' = ']' by decide, Bool.false_eq_true]
  obtain ⟨c, more, rfl, hc⟩ := hv.exists_cons
  exact if_neg hc.2.2.1

theorem closeFields_append {w : List Char} (hw : AllBlank w) (rest : List Char) :
    closeFields (w ++ ']' :: rest) = .ok rest := by
  rw [closeFields, skipBlanks_append hw, skipBlanks_cons (by decide)]
  rfl

/-- An item that is there is read into the field whose turn it is. -/
theorem readFields_item {field : Field σ} {v : List Char} (hv : SpellsField only field v)
    {index : Nat} {cs rest : List Char} (hnext : nextItem (index == 0) cs = .ok (some (v ++ rest)))
    (hrest : EndsNumber rest) (record : String) (total : Nat) (fields : List (Field σ))
    (names : List String) :
    readFields record total index (field :: fields) (only names) cs =
      readFields record total (index + 1) fields (only (field.name :: names)) rest := by
  rw [readFields]
  show (nextItem (index == 0) cs >>= _) = _
  rw [hnext]
  show (field.read (only names) (v ++ rest) >>= _) = _
  rw [show v ++ rest = [] ++ (v ++ rest) from rfl, hv.2 names [] rest .nil hrest]
  rfl

theorem readFields_tail {tail : List Char} {texts : List (List Char)}
    (htail : ItemsTail Eq tail texts) (hfields : List.Forall₂ (SpellsField only) fields texts)
    (record : String) (total index : Nat) (names : List String) (rest : List Char) :
    ∃ w, AllBlank w ∧ readFields record total (index + 1) fields (only names) (tail ++ rest) =
      .ok (only ((fields.map Field.name).reverse ++ names), w ++ ']' :: rest) := by
  induction htail generalizing fields index names with
  | @close w hw =>
      cases hfields
      refine ⟨w, hw, ?_⟩
      rw [List.append_assoc]
      rfl
  | @comma w w' v tail _ texts hw hw' hv htail ih =>
      subst hv
      cases hfields with
      | @cons field _ fields _ hfield hfields =>
      obtain ⟨w'', hw'', hread⟩ := ih hfields (index + 1) (field.name :: names)
      refine ⟨w'', hw'', ?_⟩
      simp only [List.append_assoc, List.cons_append]
      have hnext : nextItem (index + 1 == 0) (w ++ ',' :: (w' ++ (v ++ (tail ++ rest)))) = _ :=
        nextItem_comma hw hw' hfield.1 _
      rw [readFields_item hfield hnext (htail.endsNumber rest), hread]
      simp

/-- An array with a text for every field in their order is read as the record of all of them. -/
theorem readRecord_array {array : List Char} {texts : List (List Char)}
    (harray : ListText Eq array texts) (hfields : List.Forall₂ (SpellsField only) fields texts)
    {w : List Char} (hw : AllBlank w) (record : String) (rest : List Char) :
    readRecord record fields (only []) (w ++ (array ++ rest)) =
      .ok (only (fields.map Field.name).reverse, rest) := by
  obtain ⟨body, rfl⟩ := harray.exists_cons
  rw [readRecord, skipBlanks_append hw, List.cons_append, skipBlanks_cons (by decide)]
  refine Except.bind_eq_ok.mpr ?_
  cases harray with
  | @empty w' hw' =>
      cases hfields
      refine ⟨_, rfl, ?_⟩
      refine Except.bind_eq_ok.mpr ⟨rest, ?_, rfl⟩
      rw [List.append_assoc]
      exact closeFields_append hw' rest
  | @items w' v tail _ texts hw' hv htail =>
      subst hv
      cases hfields with
      | @cons field _ fields _ hfield hfields =>
      obtain ⟨w'', hw'', hread⟩ := readFields_tail htail hfields record
        (field :: fields).length 0 [field.name] rest
      refine ⟨(only ((field :: fields).map Field.name).reverse, w'' ++ ']' :: rest), ?_, ?_⟩
      · have hnext : nextItem (0 == 0) (w' ++ (v ++ (tail ++ rest))) = _ :=
          nextItem_first hw' hfield.1 _
        simp only [List.append_assoc]
        rw [readFields_item hfield hnext (htail.endsNumber rest), hread]
        simp
      · exact Except.bind_eq_ok.mpr ⟨rest, closeFields_append hw'' rest, rfl⟩

/-! ## What is refused -/

/-- The reader of a field stops where the value ends. -/
def StopsBehind (field : Field σ) : Prop :=
  ∀ {acc acc' : σ} {cs rest : List Char}, field.read acc cs = .ok (acc', rest) →
    skipValue cs = .ok rest

/-- A member that is read is read whole, and its field was not there before. -/
theorem readField_fresh (hfields : ∀ field ∈ fields, StopsBehind field) {v : List Char}
    (hv : ValueText v) {w w' rest : List Char} (hw : AllBlank w) (hw' : AllBlank w')
    (hrest : EndsNumber rest) {key : String} {acc acc' : σ} {names names' : List String}
    {behind : List Char}
    (h : readField fields (acc, names) key (w ++ ':' :: (w' ++ (v ++ rest))) =
      .ok ((acc', names'), behind)) :
    behind = rest ∧ names' = namesOf fields [(key, v)] ++ names ∧
      (names.Nodup → names'.Nodup) := by
  -- The skipper and the reader of the field stop at the same place, and the skipper's is known.
  have hskip := skipValue_append hw' hv fun _ => hrest
  rw [readField] at h
  split at h
  · next field hfind =>
      split at h
      · cases h
      · next hfresh =>
          obtain ⟨cs, hcolon, h⟩ := Except.bind_eq_ok.mp h
          cases (readColon_append hw _).symm.trans hcolon
          obtain ⟨⟨acc₁, behind₁⟩, hread, h⟩ := Except.bind_eq_ok.mp h
          cases h
          have hstop := hfields field (List.mem_of_find?_eq_some hfind) hread
          cases hskip.symm.trans hstop
          refine ⟨rfl, ?_, fun hnodup => List.nodup_cons.mpr ⟨?_, hnodup⟩⟩
          · rw [namesOf_cons_some (m := (key, v)) hfind]
            rfl
          · simpa using hfresh
  · next hfind =>
      obtain ⟨cs, hcolon, h⟩ := Except.bind_eq_ok.mp h
      cases (readColon_append hw _).symm.trans hcolon
      obtain ⟨behind₁, hread, h⟩ := Except.bind_eq_ok.mp h
      cases h
      cases hskip.symm.trans hread
      refine ⟨rfl, ?_, id⟩
      rw [namesOf_cons_none (m := (key, v)) hfind]
      rfl

/-- If the loop comes to the end, no field came twice. -/
theorem nodup_of_readMembers (hfields : ∀ field ∈ fields, StopsBehind field) {tail : List Char}
    {members : List (String × List Char)} (htail : MembersBehind tail members)
    (hvalues : ∀ m ∈ members, ValueText m.2) {fuel : Nat} {acc : σ} {names : List String}
    {rest : List Char} {result : (σ × List String) × List Char} (hnodup : names.Nodup)
    (h : readMembers (readField fields) fuel false (acc, names) (tail ++ rest) = .ok result) :
    (namesOf fields members ++ names).Nodup := by
  induction htail generalizing fuel acc names with
  | close _ => exact hnodup
  | @comma w k w' v tail key members hw hkey hw' htail ih =>
      cases fuel with
      | zero => cases h
      | succ fuel =>
          obtain ⟨hv, hvalues⟩ := List.forall_mem_cons.mp hvalues
          obtain ⟨w'', hw'', hstep⟩ := readMembers_comma (readField fields) hw hkey fuel
            (acc, names) (':' :: (w' ++ (v ++ (tail ++ rest))))
          simp only [List.append_assoc, List.cons_append] at h
          rw [hstep] at h
          obtain ⟨⟨⟨acc', names'⟩, behind⟩, hread, h⟩ := Except.bind_eq_ok.mp h
          obtain ⟨rfl, rfl, hnames⟩ := readField_fresh hfields hv hw'' hw' (htail.endsNumber rest) hread
          have hrec := ih hvalues (hnames hnodup) h
          rw [namesOf_cons, List.append_assoc]
          exact (List.perm_append_comm_assoc _ _ _).nodup_iff.mp hrec

/-- An object that is read names no field twice. -/
theorem nodup_of_readRecord (hfields : ∀ field ∈ fields, StopsBehind field) {object : List Char}
    {members : List (String × List Char)} (hobject : RecordText object members)
    (hvalues : ∀ m ∈ members, ValueText m.2) {w : List Char} (hw : AllBlank w) {record : String}
    {empty : σ} {rest : List Char} {result : σ × List Char}
    (h : readRecord record fields empty (w ++ (object ++ rest)) = .ok result) :
    (namesOf fields members).Nodup := by
  cases hobject with
  | empty _ => exact .nil
  | @members k w' v tail key members hkey hw' htail =>
      obtain ⟨hv, hvalues⟩ := List.forall_mem_cons.mp hvalues
      rw [readRecord, skipBlanks_append hw, List.cons_append, skipBlanks_cons (by decide)] at h
      obtain ⟨⟨⟨acc, names⟩, behind⟩, hread, -⟩ := Except.bind_eq_ok.mp h
      rw [readObject] at hread
      obtain ⟨w'', hw'', hstep⟩ := readMembers_first (readField fields) hkey
        (k ++ ':' :: (w' ++ (v ++ tail)) ++ rest).length (empty, [])
        (':' :: (w' ++ (v ++ (tail ++ rest))))
      simp only [List.append_assoc, List.cons_append] at hread hstep
      rw [hstep] at hread
      obtain ⟨⟨⟨acc', names'⟩, behind'⟩, hmember, hloop⟩ := Except.bind_eq_ok.mp hread
      obtain ⟨rfl, rfl, hnames⟩ := readField_fresh hfields hv hw'' hw' (htail.endsNumber rest) hmember
      have hrec := nodup_of_readMembers hfields htail hvalues (hnames .nil) hloop
      rw [namesOf_cons]
      rw [List.append_nil] at hrec
      exact List.perm_append_comm.nodup_iff.mp hrec

end

end Rollup.Json
