import Rollup.Json.Basic
import Rollup.Proofs.Entries

/-!
# Values within values

What a JSON value consists of: itself, and all that stands in its items and
members. That a value of some kind stands nowhere in a document is shown by
going through the document, one lemma for each kind of value that it is built
from.

Values that are equal as numbers need not be written alike, but only because of
the two zeros among the doubles. A value in which no double stands is equal to
nothing but itself.
-/

namespace Rollup

/-- A value is another, or stands in one of its items or members. -/
inductive Json.Occurs (inner : Json) : Json → Prop
  | here : Occurs inner inner
  | item {items : List Json} {item : Json} :
      item ∈ items → Occurs inner item → Occurs inner (.array items)
  | member {members : List (String × Json)} {entry : String × Json} :
      entry ∈ members → Occurs inner entry.2 → Occurs inner (.object members)

namespace Json

/-! ## What a value is built from -/

section

variable {inner : Json}

theorem not_occurs_string {s : String} (hne : inner ≠ .string s) : ¬ Occurs inner (.string s) := by
  rintro ⟨⟩
  exact hne rfl

theorem not_occurs_int {n : Int} (hne : inner ≠ .int n) : ¬ Occurs inner (.int n) := by
  rintro ⟨⟩
  exact hne rfl

theorem not_occurs_double {x : Binary64} (hne : inner ≠ .double x) :
    ¬ Occurs inner (.double x) := by
  rintro ⟨⟩
  exact hne rfl

theorem not_occurs_array {items : List Json} (hne : inner ≠ .array items)
    (h : ∀ item ∈ items, ¬ Occurs inner item) : ¬ Occurs inner (.array items) := by
  rintro (_ | ⟨hmem, hinner⟩)
  · exact hne rfl
  · exact h _ hmem hinner

/-- An object of members has no value in it that none of the members has. -/
theorem not_occurs_ofMembers {members : List (String × Json)}
    (hne : ∀ entries, inner ≠ .object entries)
    (h : ∀ entry ∈ members, ¬ Occurs inner entry.2) : ¬ Occurs inner (ofMembers members) := by
  rintro (_ | _ | ⟨hmem, hinner⟩)
  · exact hne _ rfl
  · exact h _ (Entries.mem_ofPairs hmem) hinner

end

/-! ## Equality where no double stands -/

/-- No double stands in a value. -/
def DoubleFree (value : Json) : Prop := ∀ x, ¬ Occurs (.double x) value

theorem doubleFree_string (s : String) : DoubleFree (.string s) := fun _ => not_occurs_string nofun

theorem doubleFree_int (n : Int) : DoubleFree (.int n) := fun _ => not_occurs_int nofun

theorem doubleFree_array {items : List Json} (h : ∀ item ∈ items, DoubleFree item) :
    DoubleFree (.array items) :=
  fun x => not_occurs_array nofun fun item hitem => h item hitem x

theorem doubleFree_ofMembers {members : List (String × Json)}
    (h : ∀ entry ∈ members, DoubleFree entry.2) : DoubleFree (ofMembers members) :=
  fun x => not_occurs_ofMembers nofun fun entry hentry => h entry hentry x

theorem doubleFree_singleton {key : String} {value : Json} (h : DoubleFree value) :
    DoubleFree (ofMembers [(key, value)]) :=
  doubleFree_ofMembers (List.forall_mem_singleton.mpr h)

theorem DoubleFree.item {items : List Json} (h : DoubleFree (.array items)) :
    ∀ item ∈ items, DoubleFree item :=
  fun _ hitem x hinner => h x (.item hitem hinner)

theorem DoubleFree.member {members : List (String × Json)} (h : DoubleFree (.object members)) :
    ∀ entry ∈ members, DoubleFree entry.2 :=
  fun _ hentry x hinner => h x (.member hentry hinner)

mutual

theorem eq_of_same {a b : Json} (h : a.same b = true) (hfree : DoubleFree a) : a = b := by
  match a, b with
  | .null, .null => rfl
  | .bool _, .bool _ | .int _, .int _ | .string _, .string _ =>
      rw [same, decide_eq_true_eq] at h
      rw [h]
  | .double x, .double _ => exact absurd .here (hfree x)
  | .array _, .array _ =>
      rw [same] at h
      rw [eq_of_sameItems h hfree.item]
  | .object _, .object _ =>
      rw [same] at h
      rw [eq_of_sameMembers h hfree.member]

theorem eq_of_sameItems {as bs : List Json} (h : sameItems as bs = true)
    (hfree : ∀ item ∈ as, DoubleFree item) : as = bs := by
  match as, bs with
  | [], [] => rfl
  | a :: as, b :: bs =>
      rw [sameItems, Bool.and_eq_true] at h
      rw [eq_of_same h.1 (hfree a List.mem_cons_self),
        eq_of_sameItems h.2 fun item hitem => hfree item (List.mem_cons_of_mem a hitem)]

theorem eq_of_sameMembers {as bs : List (String × Json)} (h : sameMembers as bs = true)
    (hfree : ∀ entry ∈ as, DoubleFree entry.2) : as = bs := by
  match as, bs with
  | [], [] => rfl
  | (j, a) :: as, (k, b) :: bs =>
      rw [sameMembers, Bool.and_eq_true, Bool.and_eq_true, decide_eq_true_eq] at h
      rw [h.1.1, eq_of_same h.1.2 (hfree (j, a) List.mem_cons_self),
        eq_of_sameMembers h.2 fun entry hentry => hfree entry (List.mem_cons_of_mem _ hentry)]

end

end Json

end Rollup
