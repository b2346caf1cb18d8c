import Rollup.Proofs.RenderedRequests
import Rollup.Proofs.Sifting

/-!
# The spine of a tree

The tree of a breakdown is a chain of buckets with statistics at its end. Seen
from the root that is a list of nodes, one for each field: `IsSpine` says what
each node of the list is and how it hangs together with the next, without the
recursion by which the tree is put together. The induction adds a node in front,
where it is the next field's turn and everything behind stays as it is.

Of a report nothing gets into a tree but its fields, in their order. What is to
be done with a field, and whether it holds numbers, only makes a difference to
what is logged.
-/

namespace Rollup.Aggregation

/-! ## What a node of a spine is -/

/-- The body of a node has a member that holds an object with these members. -/
def Computes (a : Aggregation) (what : String) (members : List (String × Json)) : Prop :=
  ∃ all, a.body = .object all ∧ Entries.get? what all = some (.object members)

/-- A node divides by a field: the time by interval, any other field by value. -/
inductive Divides (options : Options) (a : Aggregation) : String → Prop
  | byTime (kind_eq : a.kind = .dateHistogram options.interval)
      (computes : a.Computes "date_histogram"
        [("field", .string "time"), ("fixed_interval", .string options.interval.render)]) :
      Divides options a "time"
  | byValue {field : String} {size : Option Nat} (ne_time : field ≠ "time")
      (kind_eq : a.kind = .terms field size)
      (size_eq : ∀ n, size = some n ↔ options.ceiling = some n ∧ 0 < n)
      (computes : a.Computes "terms"
        ([("field", .string field), ("missing", .string "unset")] ++
          (size.map fun n : Nat => ("size", Json.int n)).toList)) :
      Divides options a field

/-- A list of nodes is a spine for some fields, with the statistics of a report at its end. -/
structure IsSpine (options : Options) (fields report : List String) (nodes : List Aggregation) :
    Prop where
  /-- There is one node for each field. -/
  length_eq : nodes.length = fields.length
  /-- It is named after this field and all that follow. -/
  name_eq : ∀ i a, nodes[i]? = some a → a.name = "by_" ++ "_".intercalate (fields.drop i)
  divides : List.Forall₂ (fun field a => Divides options a field) fields nodes
  /-- Each node but the last has the next one within it and nothing else. -/
  links : nodes.IsChain fun a next => a.children = [next]
  /-- The last has one node for each field of the report, in order. -/
  leaves : ∀ a, nodes.getLast? = some a → a.children = report.map fun field =>
    node ("no0_" ++ field) (.filtered (.greaterThan field (.int 0))) [node field (.stats field) []]

/-- What a node computes is a member of its body, with its own members in order. -/
theorem computes_of_member {a : Aggregation} {what : String} {members : Entries Json}
    (hascending : members.Ascending) (h : a.kind.member = (what, .ofMembers members)) :
    a.Computes what members := by
  obtain ⟨all, hall, -, hkind, -⟩ := bodyKeepsBoth a
  rw [h, Json.ofMembers, Entries.ofPairs_of_ascending hascending] at hkind
  exact ⟨all, hall, hkind⟩

theorem ascending_dateHistogram (interval : Interval) :
    Entries.Ascending [("field", Json.string "time"),
      ("fixed_interval", .string interval.render)] := by
  have hkeys : ["field", "fixed_interval"].Pairwise (· < ·) := by decide
  exact List.pairwise_map (f := Prod.fst) |>.mp hkeys

/-- A bucket divides by its field, whatever is within it. -/
theorem divides_bucket (options : Options) (name field : String) (children : List Aggregation) :
    Divides options (bucket options name field children) field := by
  by_cases htime : field = Field.time
  · have hkind : (bucket options name field children).kind = .dateHistogram options.interval :=
      if_pos htime
    rw [htime] at hkind ⊢
    exact .byTime hkind (computes_of_member (ascending_dateHistogram _) (by rw [hkind]; rfl))
  · have hkind : (bucket options name field children).kind =
        .terms field (options.ceiling.filter (0 < ·)) := if_neg htime
    refine .byValue htime hkind (fun n => ?_)
      (computes_of_member (ascending_termsMembers _ _) ?_)
    · rw [Option.filter_eq_some_iff, decide_eq_true_eq]
    · rw [hkind, Kind.member_terms]
      rfl

/-! ## From the end to the root -/

section

variable {options : Options} {field : String} {fields report : List String} {a next : Aggregation}
  {nodes : List Aggregation}

theorem isSpine_singleton (hname : a.name = chainName [field]) (hdivides : Divides options a field)
    (hleaves : a.children = report.map nonZeroStats) : IsSpine options [field] report [a] where
  length_eq := rfl
  name_eq i b hb := by
    obtain ⟨hi, rfl⟩ := List.getElem?_eq_some_iff.mp hb
    obtain rfl : i = 0 := Nat.lt_one_iff.mp hi
    exact hname
  divides := .cons hdivides .nil
  links := .singleton a
  leaves b hb := by
    cases hb
    exact hleaves

/-- A node in front of a spine that has the old root within it. -/
theorem IsSpine.cons (h : IsSpine options fields report (next :: nodes))
    (hname : a.name = chainName (field :: fields)) (hdivides : Divides options a field)
    (hchild : a.children = [next]) :
    IsSpine options (field :: fields) report (a :: next :: nodes) where
  length_eq := congrArg (· + 1) h.length_eq
  name_eq i b hb := by
    cases i with
    | zero =>
        cases hb
        exact hname
    | succ i => exact h.name_eq i b hb
  divides := .cons hdivides h.divides
  links := .cons_cons hchild h.links
  leaves b hb := h.leaves b (by rwa [List.getLast?_cons_cons] at hb)

theorem exists_spine_chain (options : Options) (report : List String) (field : String)
    (rest : List String) :
    ∃ nodes, IsSpine options (field :: rest) report
      (chain options (report.map nonZeroStats) field rest :: nodes) := by
  induction rest generalizing field with
  | nil => exact ⟨[], isSpine_singleton rfl (divides_bucket ..) rfl⟩
  | cons next rest ih =>
      obtain ⟨nodes, hnodes⟩ := ih next
      exact ⟨_, hnodes.cons rfl (divides_bucket ..) rfl⟩

end

/-! ## The tree of a breakdown -/

/-- The fields of a report, ascending. -/
def reportFields (b : Breakdown) : List String := (b.operations.map Dict.keys).getD []

theorem map_fst_reportEntries (b : Breakdown) :
    (reportEntries b).map Prod.fst = reportFields b := by
  obtain ⟨fields, operations⟩ := b
  cases operations with
  | none => rfl
  | some operations => rfl

theorem tree_eq_of_keys {options : Options} {b b' : Breakdown} (hfields : b'.fields = b.fields)
    (hreport : reportFields b' = reportFields b) : tree options b' = tree options b := by
  rw [tree, tree, hfields, map_nonZeroStats_reportEntries, map_nonZeroStats_reportEntries,
    map_fst_reportEntries, map_fst_reportEntries, hreport]

theorem reportFields_ascending (b : Breakdown) : (reportFields b).Pairwise (· < ·) := by
  rw [← map_fst_reportEntries]
  exact List.pairwise_map.mpr (ascending_reportEntries b)

theorem build_eq_error {options : Options} {ctx : LogContext} {b : Breakdown}
    {cause : BreakdownError} :
    build options ctx b = .error cause ↔ b.fields = [] ∧ cause = .emptyChain := by
  obtain ⟨fields, operations⟩ := b
  cases fields with
  | nil => simp [build, eq_comm]
  | cons field rest => simp [build]

/-- A breakdown is built into a tree whose spine follows its fields and ends with the fields of its
report. Only a breakdown without fields is refused. The operations of a report, and what is logged
about them, have no part in the tree. -/
theorem build_spine (options : Options) (ctx : LogContext) (b : Breakdown) :
    (∀ cause, build options ctx b = .error cause ↔ b.fields = [] ∧ cause = .emptyChain) ∧
    (b.fields ≠ [] → ∃ records root nodes, build options ctx b = .ok ⟨records, root⟩ ∧
      IsSpine options b.fields (reportFields b) (root :: nodes)) ∧
    (reportFields b).Pairwise (· < ·) ∧
    ∀ ctx' b', b'.fields = b.fields → reportFields b' = reportFields b →
      (build options ctx' b').map Logged.value = (build options ctx b).map Logged.value := by
  refine ⟨fun _ => build_eq_error, fun hne => ?_, reportFields_ascending b,
    fun ctx' b' hfields hreport => ?_⟩
  · obtain ⟨root, hroot⟩ := exists_built hne options
    obtain ⟨records, hbuild⟩ := hroot ctx
    obtain ⟨field, rest, hfields, rfl⟩ := build_eq_ok hbuild
    obtain ⟨nodes, hnodes⟩ := exists_spine_chain options (reportFields b) field rest
    rw [map_nonZeroStats_reportEntries, map_fst_reportEntries] at hbuild
    exact ⟨records, _, nodes, hbuild, hfields ▸ hnodes⟩
  · rw [map_value_build, map_value_build, tree_eq_of_keys hfields hreport]

/-- A field on both sides of the time, and a report with a field that holds no numbers. -/
def aroundTime : Breakdown :=
  ⟨["tag", "time", "tag"], some (.ofPairs [("x", "avg"), ("note", "longest")])⟩

theorem build_spine_aroundTime :
    aroundTime.fields ≠ [] ∧ ∃ records root nodes,
      build ⟨.hour, some 5⟩ (.ofDataspace "web") aroundTime = .ok ⟨records, root⟩ ∧
        IsSpine ⟨.hour, some 5⟩ ["tag", "time", "tag"] ["note", "x"] (root :: nodes) := by
  have hne : aroundTime.fields ≠ [] := List.cons_ne_nil _ _
  have hreport : reportFields aroundTime = ["note", "x"] := by decide +kernel
  have hspine := (build_spine ⟨.hour, some 5⟩ (.ofDataspace "web") aroundTime).2.1 hne
  rw [hreport] at hspine
  exact ⟨hne, hspine⟩

end Rollup.Aggregation
