import Rollup.Proofs.Assembly

/-!
# Which names a request has

The roots of a request are the trees of its breakdowns and, behind them, the
totals. The name of a tree starts with `by_`, and a total is named like the
field that it is about. So every other name is there exactly if a root divides
by the field of that name: then no tree has taken it, and the total is made.
-/

namespace Rollup.Aggregation

theorem termsField?_total (field : String) : (total field).termsField? = none := rfl

end Rollup.Aggregation

namespace Rollup.RequestDraft

open Rollup.Aggregation

/-! ## Roots and totals -/

/-- Every tree is named after fields. -/
theorem exists_chainName_of_roots {options : Options} {ctx : LogContext}
    {entries : List (Option String)} {trees : List Aggregation}
    (h : (roots options ctx [] entries).value = .ok trees) :
    ∀ root ∈ trees, ∃ fields, root.name = chainName fields := by
  refine roots_induction (P := fun kept => ∀ root ∈ kept, ∃ fields, root.name = chainName fields)
    ?_ (by simp) h
  intro kept within text b built hkept _ hbuilt _ root hroot
  rcases List.mem_append.mp hroot with hroot | hroot
  · exact hkept root hroot
  · obtain ⟨field, rest, -, htree⟩ := build_eq_ok hbuilt
    rw [List.mem_singleton.mp hroot, htree]
    exact ⟨field :: rest, name_chain _ _ field rest⟩

theorem by_prefix_chainName (fields : List String) :
    "by_".toList <+: (chainName fields).toList := by
  rw [chainName, String.toList_append]
  exact List.prefix_append _ _

/-- A name that does not start with `by_` is there exactly if a root divides by the field of that
name. -/
theorem name_mem_iff {d : RequestDraft} {r : SearchRequest} (h : d.prepare.value = .ok r)
    {field : String} (hfield : ¬ "by_".toList <+: field.toList) :
    field ∈ r.aggregations.map name ↔ ∃ a ∈ r.aggregations, a.termsField? = some field := by
  obtain ⟨-, trees, htrees, rfl⟩ := prepare_eq_ok h
  have hnames : field ∉ trees.map name := by
    intro hmem
    obtain ⟨root, hroot, rfl⟩ := List.mem_map.mp hmem
    obtain ⟨fields, hname⟩ := exists_chainName_of_roots htrees root hroot
    exact hfield (hname ▸ by_prefix_chainName fields)
  show field ∈ (trees ++ (missingTotals trees).value).map name ↔
    ∃ a ∈ trees ++ (missingTotals trees).value, a.termsField? = some field
  constructor
  · intro hmem
    obtain ⟨a, ha, rfl⟩ := List.mem_map.mp hmem
    rcases List.mem_append.mp ha with ha | ha
    · exact absurd (List.mem_map_of_mem ha) hnames
    · obtain ⟨field, rfl, ⟨root, hroot, hterms⟩, -⟩ := mem_missingTotals.mp ha
      exact ⟨root, List.mem_append_left _ hroot, hterms⟩
  · rintro ⟨a, ha, hterms⟩
    rcases List.mem_append.mp ha with ha | ha
    · have htotal := mem_missingTotals.mpr ⟨field, rfl, ⟨a, ha, hterms⟩, hnames⟩
      exact List.mem_map.mpr ⟨total field, List.mem_append_right _ htotal, rfl⟩
    · obtain ⟨other, rfl, -, -⟩ := mem_missingTotals.mp ha
      rw [termsField?_total] at hterms
      cases hterms

end Rollup.RequestDraft
