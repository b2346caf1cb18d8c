import Mathlib.Logic.Relation
import Rollup.Proofs.Totals

/-!
# Totals over a run

A list of roots may be totalled more than once, with trees put behind it, the
last root taken away and the order turned round in between. Names do not stay
apart then: a tree may come to stand beside an earlier total that has its name.
What stays apart are the summaries among the roots, and that alone is the
invariant. Only a total brings a new summary, under a name that no root has; a
tree is a bucket at its root; and the other changes bring nothing new.

That a list with its totals lacks none needs no run. Each field that a root
divides by is the name of a root by then, a total is no such root, and so a
second time there is nothing to add.
-/

namespace Rollup.Aggregation

/-! ## One change -/

/-- Whether a node is a summary of numbers. -/
def isStats (a : Aggregation) : Bool :=
  match a.kind with
  | .stats _ => true
  | _ => false

/-- One change of a list of roots. -/
inductive Change (roots : List Aggregation) : List Aggregation → Prop
  /-- The tree of a breakdown is put behind the roots. -/
  | append {text : String} {b : Breakdown} {options : Options} {ctx : LogContext}
      {built : Logged Aggregation} (parsed : Breakdown.parse text = .ok b)
      (built_eq : build options ctx b = .ok built) : Change roots (roots ++ [built.value])
  /-- The totals are put behind the roots. -/
  | total : Change roots (withTotals roots).value
  /-- The last root is taken away, if there is one. -/
  | dropLast : Change roots roots.dropLast
  /-- The order is turned round. -/
  | reverse : Change roots roots.reverse

/-- No two summaries among some roots have one name. -/
def StatsApart (roots : List Aggregation) : Prop := ((roots.filter isStats).map name).Nodup

theorem StatsApart.append {roots added : List Aggregation} (hroots : StatsApart roots)
    (hadded : StatsApart added)
    (hnew : ∀ a ∈ added, a.isStats = true → a.name ∉ roots.map name) :
    StatsApart (roots ++ added) := by
  rw [StatsApart, List.filter_append, List.map_append, List.nodup_append]
  refine ⟨hroots, hadded, ?_⟩
  intro taken htaken other hother heq
  obtain ⟨root, hroot, rfl⟩ := List.mem_map.mp htaken
  obtain ⟨a, ha, rfl⟩ := List.mem_map.mp hother
  obtain ⟨ha, hstats⟩ := List.mem_filter.mp ha
  exact hnew a ha hstats (heq ▸ List.mem_map_of_mem (List.mem_filter.mp hroot).1)

theorem StatsApart.sublist {roots fewer : List Aggregation} (h : StatsApart roots)
    (hsub : fewer.Sublist roots) : StatsApart fewer :=
  List.Nodup.sublist ((hsub.filter _).map _) h

theorem StatsApart.perm {roots roots' : List Aggregation} (h : StatsApart roots)
    (hperm : roots.Perm roots') : StatsApart roots' :=
  ((hperm.filter _).map _).nodup_iff.mp h

/-- A bucket divides, by value or by time. -/
theorem isStats_bucket (options : Options) (name field : String) (children : List Aggregation) :
    (bucket options name field children).isStats = false := by
  by_cases htime : field = Field.time <;> simp [bucket, isStats, kind, htime]

theorem isStats_of_build {options : Options} {ctx : LogContext} {b : Breakdown}
    {built : Logged Aggregation} (h : build options ctx b = .ok built) :
    built.value.isStats = false := by
  obtain ⟨field, rest, -, htree⟩ := build_eq_ok h
  rw [htree]
  cases rest with
  | nil => exact isStats_bucket ..
  | cons next rest => exact isStats_bucket ..

theorem statsApart_missingTotals (roots : List Aggregation) :
    StatsApart (missingTotals roots).value := by
  have hnames := missingTotals_names_nodup roots
  exact hnames.sublist (List.filter_sublist.map name)

/-- No change brings a second summary of one name. -/
theorem StatsApart.change {roots roots' : List Aggregation} (h : StatsApart roots)
    (hchange : Change roots roots') : StatsApart roots' := by
  cases hchange with
  | append _ hbuilt =>
      refine h.append ?_ fun a ha hstats => ?_
      · rw [StatsApart, List.filter_cons, isStats_of_build hbuilt]
        exact List.nodup_nil
      · rw [List.mem_singleton.mp ha, isStats_of_build hbuilt] at hstats
        cases hstats
  | total =>
      refine h.append (statsApart_missingTotals roots) fun a ha _ => ?_
      obtain ⟨field, rfl, -, hfree⟩ := mem_missingTotals.mp ha
      exact hfree
  | dropLast => exact h.sublist (List.dropLast_sublist roots)
  | reverse => exact h.perm (List.reverse_perm roots).symm

/-! ## A run of changes -/

/-- Some changes, one after the other, make the roots out of nothing. -/
def Reached (roots : List Aggregation) : Prop := Relation.ReflTransGen Change [] roots

theorem Reached.statsApart {roots : List Aggregation} (h : Reached roots) : StatsApart roots := by
  rw [Reached] at h
  induction h with
  | refl => exact List.nodup_nil
  | tail _ hchange ih => exact ih.change hchange

/-! ## A second time -/

/-- With the totals behind them, every field that a root divides by is the name of a root. -/
theorem termsField_mem_names_withTotals {roots : List Aggregation} {root : Aggregation}
    (hroot : root ∈ (withTotals roots).value) {field : String}
    (hfield : root.termsField? = some field) :
    field ∈ (withTotals roots).value.map name := by
  rw [value_withTotals] at hroot ⊢
  rw [List.map_append, List.mem_append]
  rcases List.mem_append.mp hroot with hroot | htotal
  · by_cases htaken : field ∈ roots.map name
    · exact Or.inl htaken
    · exact Or.inr (List.mem_map.mpr
        ⟨total field, mem_missingTotals.mpr ⟨field, rfl, ⟨root, hroot, hfield⟩, htaken⟩, rfl⟩)
  · obtain ⟨other, rfl, -, -⟩ := mem_missingTotals.mp htotal
    rw [termsField?_total] at hfield
    cases hfield

theorem missingTotals_withTotals (roots : List Aggregation) :
    (missingTotals (withTotals roots).value).value = [] := by
  refine List.eq_nil_iff_forall_not_mem.mpr fun a ha => ?_
  obtain ⟨field, rfl, ⟨root, hroot, hfield⟩, hfree⟩ := mem_missingTotals.mp ha
  exact hfree (termsField_mem_names_withTotals hroot hfield)

theorem withTotals_withTotals (roots : List Aggregation) :
    (withTotals (withTotals roots).value).value = (withTotals roots).value := by
  rw [value_withTotals, missingTotals_withTotals, List.append_nil]

/-- However roots come about by putting trees behind them, totalling them, taking the last away and
turning them round, no two summaries among them have one name. Totalling them leaves every field
that a root divides by with a root of its name, and adds nothing when it is done again. -/
theorem reached_totals {roots : List Aggregation} (h : Reached roots) :
    ((roots.filter isStats).map name).Nodup ∧
      (∀ root ∈ (withTotals roots).value, ∀ field, root.termsField? = some field →
        field ∈ (withTotals roots).value.map name) ∧
      (addTotals (withTotals roots).value).value.2 = 0 ∧
      (withTotals (withTotals roots).value).value = (withTotals roots).value := by
  refine ⟨h.statsApart, fun root hroot field => termsField_mem_names_withTotals hroot, ?_,
    withTotals_withTotals roots⟩
  exact congrArg List.length (missingTotals_withTotals roots)

/-- The tree of one field. -/
def flat (field : String) : Aggregation := chain .default [] field []

/-- A total of the name `by_x`, which the tree of `x` is called as well; then the total of `x`. -/
def sharingName : List Aggregation := [total "x", flat "x", total "by_x"]

theorem reached_sharingName :
    Reached sharingName ∧ sharingName.map name = ["x", "by_x", "by_x"] ∧
      ((sharingName.filter isStats).map name).Nodup ∧
      (addTotals (withTotals sharingName).value).value.2 = 0 := by
  have hbyX : Breakdown.parse "by_x" = .ok ⟨["by_x"], none⟩ := by decide +kernel
  have hx : Breakdown.parse "x" = .ok ⟨["x"], none⟩ := by decide +kernel
  have happend : ∀ {roots : List Aggregation} {text : String} {field : String},
      Breakdown.parse text = .ok ⟨[field], none⟩ → Change roots (roots ++ [flat field]) :=
    fun hparse => .append hparse (show build .default (.ofDataspace "web") _ = .ok _ from rfl)
  have htotal : Change [flat "by_x"] [flat "by_x", total "by_x"] := .total
  have htotal' : Change [flat "by_x", total "by_x", flat "x"]
      [flat "by_x", total "by_x", flat "x", total "x"] := .total
  have hreached : Reached sharingName :=
    (((((Relation.ReflTransGen.single (happend hbyX)).tail htotal).tail (happend hx)).tail
      htotal').tail .reverse).tail .dropLast
  exact ⟨hreached, rfl, (reached_totals hreached).1, (reached_totals hreached).2.2.1⟩

end Rollup.Aggregation
