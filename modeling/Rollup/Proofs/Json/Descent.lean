import Rollup.Proofs.Json.Path
import Rollup.Proofs.Text

/-!
# Descents along a path

A path is cut at its dots, also where two of them stand side by side, so the cut
of two paths with a dot between them is the cut of the one and then that of the
other. It follows that such a path can be followed in two parts.

Where a path leads is said here without a text that is cut. A segment leads to
the member of an object by its key, or to the item of an array by its index, or
it is a dead end. A descent is a run of segments that lead somewhere, and a path
that is not the text of a descent has a first dead end. Only the path of one
empty key cannot be written, because the empty text stays where it is.
-/

namespace Rollup.Json

/-! ## Segments -/

/-- Digits that spell an index, in front of which there may be zeros and one plus sign. One machine
word holds the index. -/
def IndexText (segment : List Char) (index : Nat) : Prop :=
  ∃ digits, (segment = digits ∨ segment = '+' :: digits) ∧ digits ≠ [] ∧
    (∀ c ∈ digits, c.isDigit = true) ∧ Nat.ofDigitChars 10 digits 0 = index ∧
    index < Word.unsignedBound

theorem indexText_toDigits {index : Nat} (h : index < Word.unsignedBound) :
    IndexText (Nat.toDigits 10 index) index :=
  ⟨_, Or.inl rfl, Nat.toDigits_ne_nil,
    fun _ hc => Nat.isDigit_of_mem_toDigits (by decide) (by decide) hc,
    Nat.ofDigitChars_ten_toDigits, h⟩

theorem digits?_eq_some {cs : List Char} {n : Nat} :
    Text.digits? cs = some n ↔
      cs ≠ [] ∧ (∀ c ∈ cs, c.isDigit = true) ∧ Nat.ofDigitChars 10 cs 0 = n := by
  rw [Text.digits?]
  split
  · next h =>
      obtain ⟨hne, hdecimal⟩ := h
      rw [Option.some.injEq]
      exact ⟨fun hvalue => ⟨hne, List.all_eq_true.mp hdecimal, hvalue⟩, fun h => h.2.2⟩
  · next h =>
      refine iff_of_false (by simp) ?_
      rintro ⟨hne, hdecimal, -⟩
      exact h ⟨hne, List.all_eq_true.mpr hdecimal⟩

theorem count?_plus (digits : List Char) :
    Text.count? ('+' :: digits) = (Text.digits? digits).filter (· < Word.unsignedBound) := rfl

theorem count?_of_forall_ne {segment : List Char} (h : ∀ digits, segment ≠ '+' :: digits) :
    Text.count? segment = (Text.digits? segment).filter (· < Word.unsignedBound) := by
  rw [Text.count?]
  exact h

theorem filter_digits?_eq_some {digits : List Char} {index : Nat} :
    (Text.digits? digits).filter (· < Word.unsignedBound) = some index ↔
      digits ≠ [] ∧ (∀ c ∈ digits, c.isDigit = true) ∧ Nat.ofDigitChars 10 digits 0 = index ∧
        index < Word.unsignedBound := by
  rw [Option.filter_eq_some_iff, digits?_eq_some, decide_eq_true_eq, and_assoc, and_assoc]

theorem count?_eq_some {segment : List Char} {index : Nat} :
    Text.count? segment = some index ↔ IndexText segment index := by
  constructor
  · intro h
    by_cases hplus : ∃ digits, segment = '+' :: digits
    · obtain ⟨digits, rfl⟩ := hplus
      rw [count?_plus] at h
      exact ⟨digits, Or.inr rfl, filter_digits?_eq_some.mp h⟩
    · rw [count?_of_forall_ne (not_exists.mp hplus)] at h
      exact ⟨segment, Or.inl rfl, filter_digits?_eq_some.mp h⟩
  · rintro ⟨digits, rfl | rfl, hdigits⟩
    · rw [count?_of_forall_ne]
      · exact filter_digits?_eq_some.mpr hdigits
      · -- The digits are all of the segment, and a plus sign is none of them.
        rintro rest rfl
        exact absurd (hdigits.2.1 '+' List.mem_cons_self) (by decide)
    · rw [count?_plus]
      exact filter_digits?_eq_some.mpr hdigits

/-- A segment leads to a part of a value. -/
inductive Leads : Json → String → Json → Prop
  | member {members : List (String × Json)} {key : String} {next : Json}
      (found : Entries.get? key members = some next) : Leads (.object members) key next
  | item {items : List Json} {segment : String} {index : Nat} {next : Json}
      (spelled : IndexText segment.toList index) (found : items[index]? = some next) :
      Leads (.array items) segment next

/-- A segment leads nowhere: the value has no parts, or no member of that key, or no item of an
index that the segment spells. -/
inductive DeadEnd : Json → String → Prop
  | scalar {value : Json} {segment : String} (noMembers : value.members? = none)
      (noItems : value.items? = none) : DeadEnd value segment
  | member {members : List (String × Json)} {key : String}
      (missing : key ∉ members.map Prod.fst) : DeadEnd (.object members) key
  | item {items : List Json} {segment : String}
      (outside : ∀ index, IndexText segment.toList index → items.length ≤ index) :
      DeadEnd (.array items) segment

variable {value next reached : Json} {segment : String} {segments : List String}

theorem child?_array (items : List Json) (segment : String) :
    child? (.array items) segment.toList =
      (Text.count? segment.toList).bind fun index => items[index]? := rfl

theorem child?_eq_some_iff : value.child? segment.toList = some next ↔ Leads value segment next := by
  constructor
  · intro h
    cases value with
    | object members => exact .member ((child?_object members segment).symm.trans h)
    | array items =>
        obtain ⟨index, hindex, hitem⟩ := Option.bind_eq_some_iff.mp h
        exact .item (count?_eq_some.mp hindex) hitem
    | _ => cases h
  · rintro (hfound | ⟨hspelled, hfound⟩)
    · rw [child?_object, hfound]
    · rw [child?_array, count?_eq_some.mpr hspelled, Option.bind_some, hfound]

theorem child?_eq_none_iff : value.child? segment.toList = none ↔ DeadEnd value segment := by
  constructor
  · intro h
    cases value with
    | object members =>
        refine .member fun hmem => ?_
        rw [child?_object, ← Option.not_isSome_iff_eq_none, Entries.isSome_get?_iff] at h
        exact h hmem
    | array items =>
        refine .item fun index hspelled => ?_
        rw [child?_array, count?_eq_some.mpr hspelled, Option.bind_some] at h
        exact List.getElem?_eq_none_iff.mp h
    | _ => exact .scalar rfl rfl
  · rintro (⟨hmembers, hitems⟩ | hmissing | houtside)
    · cases value with
      | object members => cases hmembers
      | array items => cases hitems
      | _ => rfl
    · rw [child?_object, Entries.get?_eq_none hmissing]
    · rw [child?_array]
      cases hcount : Text.count? segment.toList with
      | none => rfl
      | some index => exact List.getElem?_eq_none (houtside index (count?_eq_some.mp hcount))

/-! ## Runs of segments -/

/-- A run of segments that lead from a value down to a part of it. -/
inductive Descent : Json → List String → Json → Prop
  | here (value : Json) : Descent value [] value
  | down {value next reached : Json} {segment : String} {rest : List String}
      (first : Leads value segment next) (further : Descent next rest reached) :
      Descent value (segment :: rest) reached

theorem descend?_eq_some_iff :
    value.descend? (segments.map String.toList) = some reached ↔
      Descent value segments reached := by
  induction segments generalizing value with
  | nil =>
      constructor
      · intro h
        cases h
        exact .here _
      · rintro ⟨⟩
        rfl
  | cons segment rest ih =>
      rw [List.map_cons]
      constructor
      · intro h
        obtain ⟨next, hnext, hrest⟩ := Option.bind_eq_some_iff.mp h
        exact .down (child?_eq_some_iff.mp hnext) (ih.mp hrest)
      · rintro (_ | ⟨hfirst, hrest⟩)
        rw [descend?_cons (child?_eq_some_iff.mpr hfirst), ih.mpr hrest]

theorem descend?_of_dead_end (h : DeadEnd value segment) (rest : List (List Char)) :
    value.descend? (segment.toList :: rest) = none := by
  rw [descend?, List.foldlM_cons, child?_eq_none_iff.mpr h]
  rfl

/-- Segments are no descent if and only if a first part of them is one, to a value where the next
segment is a dead end. -/
theorem descend?_eq_none_iff :
    value.descend? (segments.map String.toList) = none ↔
      ∃ front segment rest reached, segments = front ++ segment :: rest ∧
        Descent value front reached ∧ DeadEnd reached segment := by
  constructor
  · intro h
    -- The segments before the one that fails have led on, each from where the last one led.
    induction segments generalizing value with
    | nil => cases h
    | cons segment rest ih =>
        cases hchild : value.child? segment.toList with
        | none => exact ⟨[], segment, rest, value, rfl, .here value, child?_eq_none_iff.mp hchild⟩
        | some next =>
            rw [List.map_cons, descend?_cons hchild] at h
            obtain ⟨front, last, more, reached, rfl, hfront, hdead⟩ := ih h
            exact ⟨segment :: front, last, more, reached, rfl,
              .down (child?_eq_some_iff.mp hchild) hfront, hdead⟩
  · rintro ⟨front, segment, rest, reached, rfl, hfront, hdead⟩
    rw [List.map_append, descend?_append, descend?_eq_some_iff.mpr hfront, Option.bind_some,
      List.map_cons, descend?_of_dead_end hdead]

/-! ## Paths -/

theorem at?_append (value : Json) {p q : String} (hp : p ≠ "") (hq : q ≠ "") :
    value.at? (p ++ "." ++ q) = (value.at? p).bind (·.at? q) := by
  have hcut : Text.splitOn (· = '.') (p ++ "." ++ q).toList =
      Text.splitOn (· = '.') p.toList ++ Text.splitOn (· = '.') q.toList := by
    rw [String.toList_append, String.toList_append, List.append_assoc]
    simp only [Text.splitOn_eq_splitOn]
    exact List.splitOn_append_cons_self p.toList q.toList
  have hne : p ++ "." ++ q ≠ "" := @Text.ne_empty_of_mem '.' _ (by simp)
  rw [at?_eq_descend? hne hcut, descend?_append, at?_eq_descend? hp rfl]
  exact Option.bind_congr fun reached _ => (at?_eq_descend? hq rfl reached).symm

/-- A path of segments without dots is followed along these. -/
theorem at?_intercalate (hdots : ∀ segment ∈ segments, '.' ∉ segment.toList)
    (hne : ".".intercalate segments ≠ "") (value : Json) :
    value.at? (".".intercalate segments) = value.descend? (segments.map String.toList) := by
  have hsegments : segments ≠ [] := by
    rintro rfl
    exact hne rfl
  refine at?_eq_descend? hne ?_ value
  rw [Text.splitOn_eq_splitOn]
  exact Text.splitOn_intercalate rfl hsegments hdots

/-- A path made of two paths is followed by following the one and then the other. A path made of
segments without dots leads where they descend to. It leads nowhere if after some of them the next
is a dead end. Every index in the range of an array is a segment when it is written in digits. -/
theorem at?_compositional :
    (∀ (value : Json) (p q : String), p ≠ "" → q ≠ "" →
      value.at? (p ++ "." ++ q) = (value.at? p).bind (·.at? q)) ∧
    (∀ (value : Json) (segments : List String), (∀ segment ∈ segments, '.' ∉ segment.toList) →
      ".".intercalate segments ≠ "" →
      (∀ reached, value.at? (".".intercalate segments) = some reached ↔
        Descent value segments reached) ∧
      (value.at? (".".intercalate segments) = none ↔
        ∃ front segment rest reached, segments = front ++ segment :: rest ∧
          Descent value front reached ∧ DeadEnd reached segment)) ∧
    ∀ (items : List Json) (index : Nat) (next : Json), items[index]? = some next →
      index < Word.unsignedBound → Leads (.array items) (toString index) next := by
  refine ⟨fun value p q => at?_append value, fun value segments hdots hne => ?_,
    fun items index next hfound hword => ?_⟩
  · rw [at?_intercalate hdots hne]
    exact ⟨fun reached => descend?_eq_some_iff, descend?_eq_none_iff⟩
  · refine .item ?_ hfound
    rw [Nat.toString_eq_repr, Nat.toList_repr]
    exact indexText_toDigits hword

/-- An array in an object, with an object in it that has an empty key. -/
def nested : Json := .object [("a", .array [.null, .object [("", .object [("k", .bool true)])]])]

theorem at?_compositional_nested :
    nested.at? ("a.+01" ++ "." ++ ".k") = (nested.at? "a.+01").bind (·.at? ".k") ∧
      nested.at? (".".intercalate ["a", "1", "", "k"]) = some (.bool true) ∧
      nested.at? (".".intercalate ["a", "2", "k"]) = none ∧
      Leads (.array [.null, .bool true]) (toString 1) (.bool true) := by
  obtain ⟨hparts, hsegments, hindex⟩ := at?_compositional
  have hone : IndexText "1".toList 1 := count?_eq_some.mp (by decide)
  refine ⟨hparts nested "a.+01" ".k" (by decide) (by decide), ?_, ?_,
    hindex [.null, .bool true] 1 _ rfl (by decide)⟩
  · refine ((hsegments nested ["a", "1", "", "k"] (by decide) (by decide)).1 _).mpr ?_
    exact .down (.member rfl) <| .down (.item hone rfl) <| .down (.member rfl) <|
      .down (.member rfl) <| .here _
  · refine (hsegments nested ["a", "2", "k"] (by decide) (by decide)).2.mpr
      ⟨["a"], "2", ["k"], _, rfl, .down (.member rfl) (.here _), .item fun index hspelled => ?_⟩
    have htwo : Text.count? "2".toList = some 2 := by decide
    cases htwo.symm.trans (count?_eq_some.mpr hspelled)
    exact Nat.le_refl 2

end Rollup.Json
