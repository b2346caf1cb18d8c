import Rollup.Proofs.SiblingNames

/-!
# What ceiling and interval change

Two settings of a draft end up inside its trees: the ceiling becomes the size of
nodes that divide by value, the interval the width of those that divide by time.
Nothing on the way to a request looks at either. A tree is kept or skipped for
its name, and totals go by names and fields. So a run under other settings does
the same at every step and logs the same; its trees are those of the first run
with the new settings written over the old ones.

`under` writes settings over a tree. That it commutes with each step of the
assembly is all there is to show, from one node up to the whole request.
-/

namespace Rollup.Aggregation

/-! ## Settings written over a tree -/

/-- What a node computes, under other settings. -/
def Kind.under (options : Options) : Kind → Kind
  | terms field _ => terms field (options.ceiling.filter (0 < ·))
  | dateHistogram _ => dateHistogram options.interval
  | stats field => stats field
  | filtered clause => filtered clause

mutual

/-- A tree under other settings. Names, fields and the shape stay as they are. -/
def under (options : Options) : Aggregation → Aggregation
  | node name kind children => node name (kind.under options) (underAll options children)

/-- Trees under other settings. -/
def underAll (options : Options) : List Aggregation → List Aggregation
  | [] => []
  | first :: rest => under options first :: underAll options rest

end

variable {options : Options}

theorem underAll_eq_map (trees : List Aggregation) :
    underAll options trees = trees.map (under options) := by
  induction trees with
  | nil => rw [underAll]; rfl
  | cons first rest ih => rw [underAll, ih, List.map_cons]

theorem under_node (name : String) (kind : Kind) (children : List Aggregation) :
    (node name kind children).under options =
      node name (kind.under options) (children.map (under options)) := by
  rw [under, underAll_eq_map]

theorem name_under (a : Aggregation) : (a.under options).name = a.name := by
  cases a with
  | node name kind children => rw [under]; rfl

theorem kind_under (a : Aggregation) : (a.under options).kind = a.kind.under options := by
  cases a with
  | node name kind children => rw [under]; rfl

theorem children_under (a : Aggregation) :
    (a.under options).children = a.children.map (under options) := by
  cases a with
  | node name kind children => rw [under_node]; rfl

theorem termsField?_under (a : Aggregation) : (a.under options).termsField? = a.termsField? := by
  rw [termsField?, kind_under, termsField?]
  cases a.kind <;> rfl

theorem map_name_under (trees : List Aggregation) :
    (trees.map (under options)).map name = trees.map name := by
  rw [List.map_map]
  exact List.map_congr_left fun a _ => name_under a

/-! ## Settings and the steps of an assembly -/

theorem under_bucket (old : Options) (name field : String) (children : List Aggregation) :
    (bucket old name field children).under options =
      bucket options name field (children.map (under options)) := by
  rw [bucket, under_node, bucket]
  split <;> rfl

theorem under_chain (old : Options) (leaves : List Aggregation) (field : String)
    (rest : List String) :
    (chain old leaves field rest).under options =
      chain options (leaves.map (under options)) field rest := by
  induction rest generalizing field with
  | nil => exact under_bucket ..
  | cons next rest ih =>
      rw [chain, under_bucket, List.map_singleton, ih, chain]

theorem build_under (old : Options) (ctx : LogContext) (b : Breakdown) :
    build options ctx b = (build old ctx b).map (Logged.map (under options)) := by
  obtain ⟨fields, operations⟩ := b
  cases fields with
  | nil => rfl
  | cons field rest =>
      have hleaves : ((reportEntries ⟨field :: rest, operations⟩).map fun entry =>
          nonZeroStats entry.1).map (under options) =
            (reportEntries ⟨field :: rest, operations⟩).map fun entry => nonZeroStats entry.1 := by
        rw [List.map_map]
        rfl
      simp only [build, Except.map, Logged.map, under_chain, hleaves]
      cases rest <;> rfl

theorem totals_under (names seen : List String) (trees : List Aggregation) :
    totals names seen (trees.map (under options)) = totals names seen trees := by
  induction trees generalizing seen with
  | nil => rfl
  | cons root rest ih => simp only [List.map_cons, totals, termsField?_under, ih]

/-- A total has no settings. -/
theorem map_under_missingTotals (trees : List Aggregation) :
    (missingTotals trees).value.map (under options) = (missingTotals trees).value := by
  rw [missingTotals_eq, totalsOf, List.map_map]
  rfl

theorem addTotals_under (trees : List Aggregation) :
    addTotals (trees.map (under options)) =
      (addTotals trees).map fun added => (added.1.map (under options), added.2) := by
  have htotals : missingTotals (trees.map (under options)) = missingTotals trees := by
    rw [missingTotals, map_name_under, totals_under, missingTotals]
  rw [addTotals, htotals, addTotals, Logged.map, Logged.map, Logged.map, List.map_append,
    map_under_missingTotals]

/-! ## What the settings say about each node -/

/-- A node has the settings that it should have, where its kind has any. -/
structure Settled (options : Options) (a : Aggregation) : Prop where
  size_eq_none : ∀ field size, a.kind = .terms field size →
    (size = none ↔ options.ceiling = none ∨ options.ceiling = some 0)
  size_eq_some : ∀ field n, a.kind = .terms field (some n) → options.ceiling = some n
  interval_eq : ∀ interval, a.kind = .dateHistogram interval → interval = options.interval

theorem filter_pos_eq_none {ceiling : Option Nat} :
    ceiling.filter (0 < ·) = none ↔ ceiling = none ∨ ceiling = some 0 := by
  cases ceiling with
  | none => simp
  | some n => cases n <;> simp

theorem settled_of_under_eq {a : Aggregation} (h : a.under options = a) : Settled options a := by
  have hkind : a.kind.under options = a.kind := by rw [← kind_under, h]
  refine ⟨fun field size hterms => ?_, fun field n hterms => ?_, fun interval htime => ?_⟩
  · rw [hterms] at hkind
    cases hkind
    exact filter_pos_eq_none
  · rw [hterms] at hkind
    exact (Option.filter_eq_some_iff.mp (Kind.terms.inj hkind).2).1
  · rw [htime] at hkind
    exact (Kind.dateHistogram.inj hkind).symm

theorem forall_under_eq_iff {trees : List Aggregation} :
    trees.map (under options) = trees ↔ ∀ a ∈ trees, a.under options = a := by
  have hinj := List.map_inj_left (l := trees) (f := under options) (g := fun a => a)
  rwa [List.map_id'] at hinj

/-- A forest that has the settings has them at any depth. -/
theorem Level.under_eq {roots level : List Aggregation}
    (hroots : ∀ root ∈ roots, root.under options = root) (h : Level roots level) :
    ∀ a ∈ level, a.under options = a := by
  induction h with
  | roots => exact hroots
  | within _ hmem ih =>
      refine forall_under_eq_iff.mp ?_
      rw [← children_under, ih _ hmem]

end Rollup.Aggregation

namespace Rollup.SearchRequest

/-- A request whose trees are under other settings. -/
def under (options : Aggregation.Options) (r : SearchRequest) : SearchRequest :=
  { r with aggregations := r.aggregations.map (Aggregation.under options) }

end Rollup.SearchRequest

namespace Rollup.RequestDraft

open Rollup.Aggregation

/-! ## Two runs -/

/-- A name is taken under other settings exactly if it is taken. -/
theorem any_name_under {options : Options} (kept : List Aggregation) (name : String) :
    ((kept.map (under options)).any fun root => root.name = name) =
      kept.any fun root => root.name = name := by
  rw [List.any_map]
  congr 1
  funext root
  rw [Function.comp_apply, name_under]

/-- The walk over the breakdowns takes the same steps under other settings. -/
theorem roots_under (old options : Options) (ctx : LogContext) (entries : List (Option String)) :
    ∀ kept, roots options ctx (kept.map (under options)) entries =
      (roots old ctx kept entries).map (Except.map (List.map (under options))) := by
  induction entries with
  | nil => intro kept; rfl
  | cons entry rest ih =>
      intro kept
      rw [roots, roots]
      cases entryText? entry with
      | none => simp only [ih kept]; rfl
      | some text =>
          have hbuild : (Breakdown.parse text >>= build options (ctx.withBreakdown text)) =
              (Breakdown.parse text >>= build old (ctx.withBreakdown text)).map
                (Logged.map (under options)) := by
            cases Breakdown.parse text with
            | error cause => rfl
            | ok b => exact build_under old _ b
          simp only [hbuild]
          cases Breakdown.parse text >>= build old (ctx.withBreakdown text) with
          | error cause => rfl
          | ok built =>
              have hkept := ih (kept ++ [built.value])
              rw [List.map_append, List.map_singleton] at hkept
              simp only [Except.map, Logged.value_map, Logged.records_map, name_under, any_name_under]
              split
              · rw [ih kept]; rfl
              · rw [hkept]; rfl

theorem complete_under (d : RequestDraft) (ceiling : Option Nat) (interval : Interval)
    (filter : Filter) (trees : List Aggregation) :
    { d with resultCeiling := ceiling, interval := interval }.complete filter
        (trees.map (under ⟨interval, ceiling⟩)) =
      (d.complete filter trees).map (SearchRequest.under ⟨interval, ceiling⟩) := by
  simp only [complete, addTotals_under, List.length_map, Logged.map, SearchRequest.under]

/-- A draft with other settings is prepared with the same outcome, under the other settings. -/
theorem prepare_under (d : RequestDraft) (ceiling : Option Nat) (interval : Interval) :
    { d with resultCeiling := ceiling, interval := interval }.prepare =
      d.prepare.map (Except.map (SearchRequest.under ⟨interval, ceiling⟩)) := by
  have hroots : roots ⟨interval, ceiling⟩ d.logContext [] d.breakdowns =
      (roots d.options d.logContext [] d.breakdowns).map
        (Except.map (List.map (under ⟨interval, ceiling⟩))) := roots_under d.options _ _ _ []
  have hfilter : { d with resultCeiling := ceiling, interval := interval }.filter = d.filter := rfl
  rw [prepare, prepare, hfilter]
  simp only [options, hroots, Logged.value_map, Logged.records_map]
  split
  · rfl
  · cases (roots ⟨d.interval, d.resultCeiling⟩ d.logContext [] d.breakdowns).value with
    | error cause => rfl
    | ok trees =>
        simp only [Except.map, complete_under, Logged.records_map, Logged.value_map]
        rfl

/-- Another ceiling and another interval leave the outcome of a draft as it is: the error, or the
request and all that is logged about it. The only difference is in the nodes that have a size or an
interval. Each of them, at any depth, has the interval and the size that the settings say, and no
size where there is no ceiling or the ceiling is zero. -/
theorem prepare_of_settings (d : RequestDraft) (ceiling : Option Nat) (interval : Interval) :
    { d with resultCeiling := ceiling, interval := interval }.prepare =
        d.prepare.map (Except.map (SearchRequest.under ⟨interval, ceiling⟩)) ∧
      ∀ r, { d with resultCeiling := ceiling, interval := interval }.prepare.value = .ok r →
        ∀ level, Level r.aggregations level → ∀ a ∈ level, a.Settled ⟨interval, ceiling⟩ := by
  refine ⟨prepare_under d ceiling interval, fun r hr level hlevel a ha => ?_⟩
  -- Preparing the draft under the settings that it has already changes nothing.
  have hsame := prepare_under { d with resultCeiling := ceiling, interval := interval } ceiling
    interval
  have hvalue := congrArg Logged.value hsame
  rw [Logged.value_map, hr, Except.map, Except.ok.injEq] at hvalue
  have hroots := congrArg SearchRequest.aggregations hvalue
  exact settled_of_under_eq (hlevel.under_eq (forall_under_eq_iff.mp hroots.symm) a ha)

theorem prepare_of_settings_hourly :
    ∃ r r', spellingEachOther.prepare.value = .ok r ∧
      { spellingEachOther with resultCeiling := some 0, interval := .hour }.prepare.value = .ok r' ∧
      r' = r.under ⟨.hour, some 0⟩ ∧
      r'.aggregations.map name = ["by_x", "by_by_x", "by_x_time", "x"] ∧
      ∀ a ∈ r'.aggregations, a.Settled ⟨.hour, some 0⟩ := by
  have hnames : (spellingEachOther.prepare.value.toOption.map fun r => r.aggregations.map name) =
      some ["by_x", "by_by_x", "by_x_time", "x"] := by decide +kernel
  obtain ⟨r, hr, hroots⟩ := exists_of_map_prepare hnames
  obtain ⟨hprepare, hsettled⟩ := prepare_of_settings spellingEachOther (some 0) .hour
  have hvalue := congrArg Logged.value hprepare
  rw [Logged.value_map, hr] at hvalue
  refine ⟨r, _, hr, hvalue, rfl, ?_, hsettled _ hvalue _ .roots⟩
  rw [SearchRequest.under, map_name_under, hroots]

end Rollup.RequestDraft
