import Mathlib.Data.List.Induction
import Mathlib.Data.List.Nodup
import Rollup.Aggregation.Totals

/-!
# The totals in closed form

The walk that makes the totals carries along the fields it has seen, so what it
does at a root depends on all roots before it. Taken as a whole it is simple.
The fields that roots divide by are listed, each where it comes up first; those
that no root is named after have a total, in the order of the list, and each of
the others is reported. The walk is taken apart here once, and whatever is said
about totals elsewhere is read off that equation.
-/

namespace Rollup.Aggregation

/-- The fields that roots divide by, each once, in the order in which they come up. -/
def leadingFields (roots : List Aggregation) : List String :=
  (roots.filterMap termsField?).eraseDups

theorem mem_leadingFields {roots : List Aggregation} {field : String} :
    field ∈ leadingFields roots ↔ ∃ root ∈ roots, root.termsField? = some field := by
  rw [leadingFields, List.mem_eraseDups, List.mem_filterMap]

/-- What is left of a list without repetitions is in the order in which it came up first. -/
theorem pairwise_idxOf_eraseDups (fields : List String) :
    fields.eraseDups.Pairwise fun a b => fields.idxOf a < fields.idxOf b := by
  induction fields using List.reverseRecOn with
  | nil => exact .nil
  | append_singleton front field ih =>
      have hfront : front.eraseDups.Pairwise fun a b =>
          (front ++ [field]).idxOf a < (front ++ [field]).idxOf b := by
        refine ih.imp_of_mem fun ha hb hlt => ?_
        rwa [List.idxOf_append_of_mem (List.mem_eraseDups.mp ha),
          List.idxOf_append_of_mem (List.mem_eraseDups.mp hb)]
      rw [List.eraseDups_append]
      by_cases hmem : field ∈ front
      · have hnone : [field].removeAll front = [] := by simp [List.removeAll, hmem]
        rw [hnone, List.eraseDups_nil, List.append_nil]
        exact hfront
      · have hlast : ([field].removeAll front).eraseDups = [field] := by
          simp [List.removeAll, hmem, List.eraseDups_cons]
        rw [hlast, List.pairwise_append]
        refine ⟨hfront, List.pairwise_singleton _ _, fun other hother last hmemLast => ?_⟩
        rw [List.mem_eraseDups] at hother
        rw [List.mem_singleton.mp hmemLast, List.idxOf_append_of_mem hother,
          List.idxOf_append_of_notMem hmem]
        exact Nat.lt_add_right _ (List.idxOf_lt_length_iff.mpr hother)

theorem nodup_eraseDups (fields : List String) : fields.eraseDups.Nodup := by
  refine (pairwise_idxOf_eraseDups fields).imp ?_
  rintro field _ hlt rfl
  exact Nat.lt_irrefl _ hlt

theorem nodup_leadingFields (roots : List Aggregation) : (leadingFields roots).Nodup :=
  nodup_eraseDups _

/-- What the walk makes of fields in the order of the list. -/
def totalsOf (names fields : List String) : Logged (List Aggregation) :=
  ⟨(fields.filter (· ∈ names)).map .totalSkipped, (fields.filter (· ∉ names)).map total⟩

theorem totalsOf_cons_of_mem {names : List String} {field : String} (h : field ∈ names)
    (fields : List String) :
    totalsOf names (field :: fields) = (totalsOf names fields).after [.totalSkipped field] := by
  simp [totalsOf, Logged.after, h]

theorem totalsOf_cons_of_not_mem {names : List String} {field : String} (h : field ∉ names)
    (fields : List String) :
    totalsOf names (field :: fields) = (totalsOf names fields).map (total field :: ·) := by
  simp [totalsOf, Logged.map, h]

/-- The walk goes over the fields that are not seen yet, each once. -/
theorem totals_eq (names : List String) (roots : List Aggregation) :
    ∀ seen, totals names seen roots =
      totalsOf names ((roots.filterMap termsField?).filter (· ∉ seen)).eraseDups := by
  induction roots with
  | nil => intro seen; rfl
  | cons root rest ih =>
      intro seen
      rw [totals, List.filterMap_cons]
      cases hfield : root.termsField? with
      | none => exact ih seen
      | some field =>
          by_cases hseen : field ∈ seen
          · simp only [if_pos hseen, ih seen]
            rw [List.filter_cons_of_neg (by simpa using hseen)]
          · -- Erasing this field from the rest is the same as having seen it.
            have hrest : ((rest.filterMap termsField?).filter (· ∉ seen)).filter
                (fun other => !other == field) =
                  (rest.filterMap termsField?).filter (· ∉ field :: seen) := by
              rw [List.filter_filter]
              refine List.filter_congr fun other _ => ?_
              by_cases heq : other = field <;> simp [heq]
            rw [List.filter_cons_of_pos (by simpa using hseen), List.eraseDups_cons, hrest]
            simp only [if_neg hseen, ih (field :: seen)]
            by_cases htaken : field ∈ names
            · rw [if_pos htaken, totalsOf_cons_of_mem htaken]
            · rw [if_neg htaken, totalsOf_cons_of_not_mem htaken]

theorem missingTotals_eq (roots : List Aggregation) :
    missingTotals roots = totalsOf (roots.map name) (leadingFields roots) := by
  rw [missingTotals, totals_eq, leadingFields]
  simp

theorem value_withTotals (roots : List Aggregation) :
    (withTotals roots).value = roots ++ (missingTotals roots).value := by
  rw [withTotals, addTotals, Logged.value_map, Logged.value_map]

/-- A field that a root divides by has a total, unless a root has its name. -/
theorem mem_missingTotals {roots : List Aggregation} {a : Aggregation} :
    a ∈ (missingTotals roots).value ↔
      ∃ field, a = total field ∧ (∃ root ∈ roots, root.termsField? = some field) ∧
        field ∉ roots.map name := by
  rw [missingTotals_eq, totalsOf, List.mem_map]
  constructor
  · rintro ⟨field, hmem, rfl⟩
    rw [List.mem_filter, mem_leadingFields] at hmem
    exact ⟨field, rfl, hmem.1, of_decide_eq_true hmem.2⟩
  · rintro ⟨field, rfl, hroot, hfree⟩
    exact ⟨field, List.mem_filter.mpr ⟨mem_leadingFields.mpr hroot, decide_eq_true hfree⟩, rfl⟩

theorem name_total (field : String) : (total field).name = field := rfl

theorem map_name_missingTotals (roots : List Aggregation) :
    (missingTotals roots).value.map name =
      (leadingFields roots).filter (· ∉ roots.map name) := by
  rw [missingTotals_eq, totalsOf, List.map_map]
  exact List.map_id _

/-- The order of the roots decides about the order of the totals, and about nothing else. -/
theorem missingTotals_perm {roots roots' : List Aggregation} (h : roots.Perm roots') :
    (missingTotals roots).value.Perm (missingTotals roots').value := by
  have hfields : (leadingFields roots).Perm (leadingFields roots') := by
    refine (List.perm_ext_iff_of_nodup (nodup_leadingFields _) (nodup_leadingFields _)).mpr
      fun field => ?_
    simp only [mem_leadingFields, h.mem_iff]
  have hnames : ∀ field, field ∈ roots.map name ↔ field ∈ roots'.map name :=
    fun field => (h.map name).mem_iff
  rw [missingTotals_eq, missingTotals_eq, totalsOf, totalsOf]
  simp only [hnames]
  exact (hfields.filter _).map _

theorem missingTotals_names_nodup (roots : List Aggregation) :
    ((missingTotals roots).value.map name).Nodup := by
  rw [map_name_missingTotals]
  exact (nodup_leadingFields roots).filter _

end Rollup.Aggregation
