import Rollup.Request
import Rollup.Proofs.Entries
import Rollup.Proofs.Except
import Rollup.Proofs.MissingTotals

/-!
# Siblings have names of their own

Siblings are rendered as one object under their names, so two of one name
would leave one body behind. Names come from three places: the nodes of a
chain are named after the fields that follow, the statistics of a report after
one field each, and a total is named like its field. Nothing keeps the three
spellings apart. What does is where the nodes stand. A node of a chain has no
sibling below the root, the fields of a report are the keys of a dictionary,
a root is kept only if no earlier root has its name, and a total is added only
if no root has its name.

The first half of the file follows the nodes to where they are put and ends
with `prepare_separated`. The second half is about rendering alone: siblings
that are apart come out as one member each.
-/

namespace Rollup.Aggregation

/-- The names of siblings are apart, here and everywhere within. -/
inductive Separated : Aggregation → Prop
  | node {name : String} {kind : Kind} {children : List Aggregation}
      (names : (children.map Aggregation.name).Nodup)
      (within : ∀ child ∈ children, Separated child) :
      Separated (.node name kind children)

/-- The lists of siblings of a forest: its roots, and what is within a node of
a list of siblings. -/
inductive Level (roots : List Aggregation) : List Aggregation → Prop
  | roots : Level roots roots
  | within {level : List Aggregation} {a : Aggregation}
      (above : Level roots level) (mem : a ∈ level) : Level roots a.children

theorem Separated.children {a : Aggregation} (h : a.Separated) :
    (a.children.map Aggregation.name).Nodup ∧
      ∀ child ∈ a.children, child.Separated := by
  cases h with
  | node names within => exact ⟨names, within⟩

/-- Roots that are apart make every list of siblings apart. -/
theorem Level.separated {roots level : List Aggregation}
    (hnames : (roots.map name).Nodup) (hroots : ∀ root ∈ roots, root.Separated)
    (h : Level roots level) :
    (level.map name).Nodup ∧ ∀ a ∈ level, a.Separated := by
  induction h with
  | roots => exact ⟨hnames, hroots⟩
  | within above mem ih => exact (ih.2 _ mem).children

/-! ## The tree of one breakdown -/

theorem separated_leaf {name : String} {kind : Kind} :
    (node name kind []).Separated := .node List.nodup_nil (by simp)

theorem separated_only_child {name : String} {kind : Kind} {child : Aggregation}
    (h : child.Separated) : (node name kind [child]).Separated := by
  refine .node (by simp) fun a ha => ?_
  rw [List.mem_singleton.mp ha]
  exact h

theorem separated_nonZeroStats (field : String) : (nonZeroStats field).Separated :=
  separated_only_child separated_leaf

theorem name_nonZeroStats (field : String) :
    (nonZeroStats field).name = "no0_" ++ field := rfl

theorem ascending_reportEntries (b : Breakdown) : (reportEntries b).Ascending := by
  rw [reportEntries]
  split
  · next operations _ => exact operations.ascending
  · exact List.Pairwise.nil

/-- The statistics of a report are made from its keys. -/
theorem map_nonZeroStats_reportEntries (b : Breakdown) :
    ((reportEntries b).map fun entry => nonZeroStats entry.1) =
      ((reportEntries b).map Prod.fst).map nonZeroStats := by
  rw [List.map_map]
  rfl

/-- The statistics of a report are named after keys, which do not repeat. -/
theorem nonZeroStats_names_nodup {fields : List String} (h : fields.Nodup) :
    ((fields.map nonZeroStats).map name).Nodup := by
  rw [List.map_map]
  refine List.Pairwise.map _ (fun a b hne heq => hne ?_) h
  rw [Function.comp_apply, Function.comp_apply, name_nonZeroStats,
    name_nonZeroStats] at heq
  exact (String.append_right_inj "no0_").mp heq

theorem separated_chain {options : Options} {leaves : List Aggregation}
    (hnames : (leaves.map name).Nodup) (hleaves : ∀ a ∈ leaves, a.Separated) :
    ∀ (field : String) (rest : List String),
      (chain options leaves field rest).Separated := by
  intro field rest
  induction rest generalizing field with
  | nil => exact .node hnames hleaves
  | cons next rest ih => exact separated_only_child (ih next)

/-- What a breakdown is built into, whatever is reported on the way. -/
theorem build_eq_ok {options : Options} {ctx : LogContext} {b : Breakdown}
    {built : Logged Aggregation} (h : build options ctx b = .ok built) :
    ∃ field rest, b.fields = field :: rest ∧
      built.value = chain options
        ((reportEntries b).map fun entry => nonZeroStats entry.1) field rest := by
  rw [build] at h
  split at h
  · cases h
  · next field rest hfields =>
      cases h
      exact ⟨field, rest, hfields, rfl⟩

theorem separated_build {options : Options} {ctx : LogContext} {b : Breakdown}
    {built : Logged Aggregation} (h : build options ctx b = .ok built) :
    built.value.Separated := by
  obtain ⟨field, rest, -, htree⟩ := build_eq_ok h
  rw [htree, map_nonZeroStats_reportEntries]
  refine separated_chain (nonZeroStats_names_nodup (ascending_reportEntries b).keys_nodup) ?_ _ _
  intro a ha
  obtain ⟨key, -, rfl⟩ := List.mem_map.mp ha
  exact separated_nonZeroStats key

/-! ## Totals -/

theorem withTotals_names_nodup {roots : List Aggregation}
    (h : (roots.map name).Nodup) : ((withTotals roots).value.map name).Nodup := by
  rw [value_withTotals, List.map_append, List.nodup_append]
  refine ⟨h, missingTotals_names_nodup roots, ?_⟩
  intro taken htaken other hother heq
  obtain ⟨a, ha, rfl⟩ := List.mem_map.mp hother
  obtain ⟨field, rfl, -, hfree⟩ := mem_missingTotals.mp ha
  rw [name_total] at heq
  exact hfree (heq ▸ htaken)

theorem separated_withTotals {roots : List Aggregation}
    (h : ∀ root ∈ roots, root.Separated) :
    ∀ a ∈ (withTotals roots).value, a.Separated := by
  intro a ha
  rw [value_withTotals] at ha
  rcases List.mem_append.mp ha with ha | ha
  · exact h a ha
  · obtain ⟨field, rfl, -, -⟩ := mem_missingTotals.mp ha
    exact separated_leaf

end Rollup.Aggregation

namespace Rollup.RequestDraft

open Rollup.Aggregation

/-! ## The roots of a request -/

/-- What holds of the kept roots at the start, and goes on to hold when a tree
of a new name is put behind them, holds at the end. -/
theorem roots_induction {options : Options} {ctx : LogContext}
    {P : List Aggregation → Prop}
    (hkeep : ∀ {kept : List Aggregation} {within : LogContext} {text : String} {b : Breakdown}
      {built : Logged Aggregation}, P kept → Breakdown.parse text = .ok b →
      build options within b = .ok built → (∀ root ∈ kept, root.name ≠ built.value.name) →
      P (kept ++ [built.value])) :
    ∀ {entries : List (Option String)} {kept trees : List Aggregation},
      P kept → (roots options ctx kept entries).value = .ok trees → P trees := by
  intro entries
  induction entries with
  | nil => intro kept trees hP h; cases h; exact hP
  | cons entry rest ih =>
      intro kept trees hP h
      rw [roots] at h
      split at h
      · exact ih hP h
      · simp only [] at h
        split at h
        · cases h
        · next built hbuilt =>
            obtain ⟨b, hparse, hb⟩ := Except.bind_eq_ok.mp hbuilt
            split at h
            · exact ih hP h
            · next hnew =>
                refine ih (hkeep hP hparse hb fun root hroot heq => hnew ?_) h
                exact List.any_eq_true.mpr ⟨root, hroot, decide_eq_true heq⟩

theorem roots_separated {options : Options} {ctx : LogContext}
    {entries : List (Option String)} {trees : List Aggregation}
    (h : (roots options ctx [] entries).value = .ok trees) :
    (trees.map name).Nodup ∧ ∀ root ∈ trees, root.Separated := by
  refine roots_induction
    (P := fun kept => (kept.map name).Nodup ∧ ∀ root ∈ kept, root.Separated)
    ?_ ⟨by simp, by simp⟩ h
  intro kept within text b built hkept _ hbuilt hnew
  refine ⟨?_, ?_⟩
  · rw [List.map_append, List.nodup_append]
    refine ⟨hkept.1, by simp, ?_⟩
    intro taken htaken other hother heq
    obtain ⟨root, hroot, rfl⟩ := List.mem_map.mp htaken
    rw [List.map_singleton, List.mem_singleton] at hother
    exact hnew root hroot (heq.trans hother)
  · intro root hroot
    rcases List.mem_append.mp hroot with hroot | hroot
    · exact hkept.2 root hroot
    · rw [List.mem_singleton.mp hroot]
      exact separated_build hbuilt

/-- What a prepared draft comes from. -/
theorem prepare_eq_ok {d : RequestDraft} {r : SearchRequest}
    (h : d.prepare.value = .ok r) :
    d.window.start.before d.window.stop = true ∧
      ∃ trees, (roots d.options d.logContext [] d.breakdowns).value = .ok trees ∧
        r = (d.complete d.filter.value trees).value := by
  rw [prepare] at h
  split at h
  · cases h
  · next hwindow =>
      simp only [] at h
      split at h
      · cases h
      · next trees htrees =>
          cases h
          exact ⟨by simpa using hwindow, trees, htrees, rfl⟩

theorem prepare_separated {d : RequestDraft} {r : SearchRequest}
    (h : d.prepare.value = .ok r) :
    (r.aggregations.map name).Nodup ∧ ∀ a ∈ r.aggregations, a.Separated := by
  obtain ⟨-, trees, htrees, rfl⟩ := prepare_eq_ok h
  have hroots := roots_separated htrees
  exact ⟨withTotals_names_nodup hroots.1, separated_withTotals hroots.2⟩

end Rollup.RequestDraft

namespace Rollup.Aggregation

/-! ## Rendering siblings that are apart -/

theorem bodies_eq_map (nodes : List Aggregation) :
    bodies nodes = nodes.map fun a => (a.name, a.body) := by
  induction nodes with
  | nil => rw [bodies]; rfl
  | cons first rest ih => rw [bodies, ih]; rfl

theorem bodies_keys (nodes : List Aggregation) :
    (bodies nodes).map Prod.fst = nodes.map name := by
  rw [bodies_eq_map, List.map_map]
  rfl

/-- The object of siblings has one member for each of them: the member under
the name of a node is the body of that node, and there are no others. -/
def RendersEach (nodes : List Aggregation) : Prop :=
  ∃ members, render nodes = .object members ∧ members.length = nodes.length ∧
    ∀ a ∈ nodes, Entries.get? a.name members = some a.body

theorem rendersEach_of_nodup {nodes : List Aggregation}
    (h : (nodes.map name).Nodup) : RendersEach nodes := by
  have hkeys : ((bodies nodes).map Prod.fst).Nodup := by rwa [bodies_keys]
  refine ⟨Entries.ofPairs (bodies nodes), rfl, ?_, ?_⟩
  · rw [Entries.length_ofPairs hkeys, bodies_eq_map, List.length_map]
  · intro a ha
    refine Entries.get?_ofPairs_of_mem hkeys ?_
    rw [bodies_eq_map]
    exact List.mem_map_of_mem ha

/-- Siblings that are apart are rendered alike in any order. -/
theorem render_perm {nodes nodes' : List Aggregation} (h : nodes.Perm nodes')
    (hnames : (nodes.map name).Nodup) : render nodes = render nodes' := by
  have hbodies : (bodies nodes).Perm (bodies nodes') := by
    rw [bodies_eq_map, bodies_eq_map]
    exact h.map _
  have hkeys : ((bodies nodes).map Prod.fst).Nodup := by rwa [bodies_keys]
  exact congrArg Json.object (Entries.ofPairs_perm hbodies hkeys)

/-- What a node computes, and what is within it, are two members of its body
that do not meet. -/
def BodyKeepsBoth (a : Aggregation) : Prop :=
  ∃ members, a.body = .object members ∧
    members.length = (if a.children.isEmpty then 1 else 2) ∧
    Entries.get? a.kind.member.1 members = some a.kind.member.2 ∧
    (a.children ≠ [] → Entries.get? "aggs" members = some (render a.children))

theorem Kind.member_ne_aggs (kind : Kind) : kind.member.1 ≠ "aggs" := by
  cases kind <;> simp [Kind.member]

theorem bodyKeepsBoth (a : Aggregation) : a.BodyKeepsBoth := by
  obtain ⟨name, kind, children⟩ := a
  refine ⟨_, by rw [body]; rfl, ?_⟩
  cases children with
  | nil =>
      refine ⟨rfl, ?_, fun h => absurd rfl h⟩
      exact Entries.get?_ofPairs_of_mem (by simp) (by simp [Aggregation.kind])
  | cons first rest =>
      have hkeys : ([kind.member, ("aggs", Json.ofMembers (bodies (first :: rest)))].map
          Prod.fst).Nodup := by simp [Kind.member_ne_aggs]
      refine ⟨Entries.length_ofPairs hkeys, ?_, fun _ => ?_⟩
      · exact Entries.get?_ofPairs_of_mem hkeys (by simp [Aggregation.kind])
      · exact Entries.get?_ofPairs_of_mem hkeys (by simp [render, children])

end Rollup.Aggregation

namespace Rollup.RequestDraft

open Rollup.Aggregation

/-- A prepared request never has two siblings of one name, at any depth, so
nothing is lost in its body: the aggregations of the body are the rendered
roots, every list of siblings comes out with one member for each node, and
every node that holds others has their object in its own body. -/
theorem prepare_siblings_apart {d : RequestDraft} {r : SearchRequest}
    (h : d.prepare.value = .ok r) :
    (∃ members, r.toJson = .object members ∧
      Entries.get? "aggs" members = some (render r.aggregations)) ∧
    ∀ level, Level r.aggregations level →
      (level.map name).Nodup ∧ RendersEach level ∧ ∀ a ∈ level, a.BodyKeepsBoth := by
  obtain ⟨hnames, hroots⟩ := prepare_separated h
  refine ⟨⟨_, rfl, ?_⟩, ?_⟩
  · exact Entries.get?_ofPairs_of_mem (by simp) (by simp)
  · intro level hlevel
    have hlevelNames := (hlevel.separated hnames hroots).1
    exact ⟨hlevelNames, rendersEach_of_nodup hlevelNames, fun a _ => bodyKeepsBoth a⟩

theorem exists_of_map_prepare {α : Type} {d : RequestDraft} {f : SearchRequest → α} {x : α}
    (h : d.prepare.value.toOption.map f = some x) : ∃ r, d.prepare.value = .ok r ∧ f r = x := by
  cases hr : d.prepare.value with
  | error cause => rw [hr] at h; cases h
  | ok r =>
      rw [hr] at h
      exact ⟨r, rfl, Option.some.inj h⟩

/-- A draft whose names spell each other: the root of `x` is called `by_x`, and
so would the total of the field `by_x` be. -/
def spellingEachOther : RequestDraft :=
  { make ⟨"web", by decide, by decide⟩
      ⟨⟨0, 0, 0, by decide, by decide, by decide, by decide, by decide⟩,
        ⟨1, 0, 0, by decide, by decide, by decide, by decide, by decide⟩⟩ with
    breakdowns := [some "x", some " by_x ", none, some "x/time \x7bcount:avg, dt:sum\x7d"] }

theorem spellingEachOther_siblings_apart :
    ∃ r, spellingEachOther.prepare.value = .ok r ∧
      r.aggregations.map name = ["by_x", "by_by_x", "by_x_time", "x"] ∧
      RendersEach r.aggregations := by
  have hnames : (spellingEachOther.prepare.value.toOption.map fun r =>
      r.aggregations.map name) = some ["by_x", "by_by_x", "by_x_time", "x"] := by
    decide +kernel
  cases hr : spellingEachOther.prepare.value with
  | error cause => rw [hr] at hnames; exact absurd hnames (by simp [Except.toOption])
  | ok r =>
      rw [hr] at hnames
      have hapart := prepare_siblings_apart hr
      exact ⟨r, rfl, Option.some.inj hnames, (hapart.2 _ .roots).2.1⟩

end Rollup.RequestDraft
