import Rollup.Proofs.SiblingNames

/-!
# Which totals are added

Totals can be made for any list of roots, also for one in which names repeat or
in which totals stand already. What is added then is said by two things: which
nodes they are, and in what order they come. Neither looks at what the walk has
seen on its way. The order of the roots decides about the order of the totals
only, since a root is asked for nothing but its name and its field.
-/

namespace Rollup.Aggregation

/-- The nodes that are to be added to some roots. -/
structure Totalled (roots added : List Aggregation) : Prop where
  /-- For each field that a root divides by, and that no root is named after, a summary of the
  count under the name of the field. -/
  mem_iff : ∀ a, a ∈ added ↔ ∃ field, a = node field (.stats "count") [] ∧
    (∃ root ∈ roots, root.termsField? = some field) ∧ ∀ root ∈ roots, root.name ≠ field
  /-- They come in the order in which the fields come up first, and so none comes twice. -/
  ordered : added.Pairwise fun a b =>
    (roots.filterMap termsField?).idxOf a.name < (roots.filterMap termsField?).idxOf b.name

theorem totalled_missingTotals (roots : List Aggregation) :
    Totalled roots (missingTotals roots).value where
  mem_iff a := by
    rw [mem_missingTotals]
    simp only [List.mem_map, not_exists, not_and]
    rfl
  ordered := by
    have hnames : ((missingTotals roots).value.map name).Pairwise fun a b =>
        (roots.filterMap termsField?).idxOf a < (roots.filterMap termsField?).idxOf b := by
      rw [map_name_missingTotals]
      exact (pairwise_idxOf_eraseDups _).filter _
    rwa [List.pairwise_map] at hnames

theorem Totalled.nodup {roots added : List Aggregation} (h : Totalled roots added) :
    added.Nodup := by
  refine h.ordered.imp ?_
  rintro a _ hlt rfl
  exact Nat.lt_irrefl _ hlt

/-- Which nodes they are and how they are ordered leaves no choice. -/
theorem Totalled.eq {roots added added' : List Aggregation} (h : Totalled roots added)
    (h' : Totalled roots added') : added = added' := by
  have hperm : added.Perm added' := (List.perm_ext_iff_of_nodup h.nodup h'.nodup).mpr fun a =>
    (h.mem_iff a).trans (h'.mem_iff a).symm
  exact hperm.eq_of_pairwise (fun _ _ _ _ hlt hgt => absurd hgt (Nat.lt_asymm hlt)) h.ordered
    h'.ordered

/-- The totals are put behind the roots, which stay as they are, and they are all that is to be added.
The number that is reported is how many they are, by which the list has grown. Names that are apart
stay apart, and the same roots in another order have the same totals. -/
theorem withTotals_totalled (roots : List Aggregation) :
    (withTotals roots).value = roots ++ (missingTotals roots).value ∧
      (∀ added, Totalled roots added ↔ added = (missingTotals roots).value) ∧
      (addTotals roots).value.2 = (missingTotals roots).value.length ∧
      (withTotals roots).value.length - roots.length = (missingTotals roots).value.length ∧
      ((roots.map name).Nodup → ((withTotals roots).value.map name).Nodup) ∧
      ∀ roots', roots.Perm roots' →
        (missingTotals roots).value.Perm (missingTotals roots').value := by
  have htotalled := totalled_missingTotals roots
  refine ⟨value_withTotals roots, fun added => ⟨fun h => h.eq htotalled, ?_⟩, rfl, ?_,
    withTotals_names_nodup, fun roots' => missingTotals_perm⟩
  · rintro rfl
    exact htotalled
  · rw [value_withTotals, List.length_append, Nat.add_sub_cancel_left]

end Rollup.Aggregation
