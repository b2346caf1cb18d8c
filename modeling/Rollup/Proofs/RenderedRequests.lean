import Mathlib.Data.String.Basic
import Rollup.Proofs.Interval
import Rollup.Proofs.Json.Occurs
import Rollup.Proofs.SiblingNames

/-!
# What a body tells of a request

The body of a request is made of objects, and an object has no order. Nothing
is lost by that. The parts of a body, of a node and of a clause stand under
fixed keys, so each is found again by its key. The nodes within a node are put
in ascending order of their names before they are rendered: there is one, or
they are named after the keys of a dictionary. In an object they stand in that
order again. Only the roots are in an order of their own, and it is all that
two requests with one body may differ in.

Bodies are compared as JSON values, where the two zeros among the doubles are
one number. No double stands in the body of a request that was prepared, so
equality of bodies is equality of what is written.
-/

namespace Rollup

/-! ## Objects with different keys -/

namespace Json

/-- Objects that are equal have the same member under each key. -/
theorem get?_eq_of_ofMembers_eq {members members' : List (String × Json)}
    (hkeys : (members.map Prod.fst).Nodup) (hkeys' : (members'.map Prod.fst).Nodup)
    (h : ofMembers members = ofMembers members') (key : String) :
    Entries.get? key members = Entries.get? key members' := by
  have hentries : Entries.ofPairs members = Entries.ofPairs members' := Json.object.inj h
  rw [← Entries.get?_ofPairs hkeys, hentries, Entries.get?_ofPairs hkeys']

theorem ofMembers_singleton (key : String) (value : Json) :
    ofMembers [(key, value)] = .object [(key, value)] := rfl

theorem ofMembers_singleton_inj {key key' : String} {value value' : Json} :
    ofMembers [(key, value)] = ofMembers [(key', value')] ↔ key = key' ∧ value = value' := by
  rw [ofMembers_singleton, ofMembers_singleton]
  simp

end Json

/-! ## Clauses -/

namespace Clause

theorem bounds_eq_pick (gt gte lt : Option Json) :
    bounds gt gte lt = Entries.pick
      (fun key => if key = "gt" then gt else if key = "gte" then gte else lt)
      ["gt", "gte", "lt"] := by
  cases gt <;> cases gte <;> cases lt <;> rfl

theorem bounds_keys_nodup (gt gte lt : Option Json) :
    ((bounds gt gte lt).map Prod.fst).Nodup := by
  rw [bounds_eq_pick]
  exact List.Nodup.sublist (Entries.keys_pick_sublist _ _) (by decide)

theorem bounds_inj {gt gte lt gt' gte' lt' : Option Json}
    (h : Json.ofMembers (bounds gt gte lt) = Json.ofMembers (bounds gt' gte' lt')) :
    gt = gt' ∧ gte = gte' ∧ lt = lt' := by
  have hget := Json.get?_eq_of_ofMembers_eq (bounds_keys_nodup _ _ _) (bounds_keys_nodup _ _ _) h
  simp only [bounds_eq_pick, Entries.get?_pick] at hget
  exact ⟨by simpa using hget "gt", by simpa using hget "gte", by simpa using hget "lt"⟩

theorem toJson_injective : Function.Injective toJson := by
  intro c c' h
  cases c with
  | range field gt gte lt =>
      cases c' with
      | range field' gt' gte' lt' =>
          obtain ⟨-, hrange⟩ := Json.ofMembers_singleton_inj.mp h
          obtain ⟨rfl, hbounds⟩ := Json.ofMembers_singleton_inj.mp hrange
          obtain ⟨rfl, rfl, rfl⟩ := bounds_inj hbounds
          rfl
      | term => exact absurd (Json.ofMembers_singleton_inj.mp h).1 (by decide)
  | term field value =>
      cases c' with
      | range => exact absurd (Json.ofMembers_singleton_inj.mp h).1 (by decide)
      | term field' value' =>
          obtain ⟨-, hterm⟩ := Json.ofMembers_singleton_inj.mp h
          obtain ⟨rfl, hvalue⟩ := Json.ofMembers_singleton_inj.mp hterm
          rw [Json.string.inj hvalue]

theorem doubleFree_range {gt gte lt : Option Json}
    (h : ∀ bound ∈ bounds gt gte lt, bound.2.DoubleFree) (field : String) :
    (range field gt gte lt).toJson.DoubleFree :=
  Json.doubleFree_singleton (Json.doubleFree_singleton (Json.doubleFree_ofMembers h))

theorem doubleFree_term (field value : String) : (term field value).toJson.DoubleFree :=
  Json.doubleFree_singleton (Json.doubleFree_singleton (Json.doubleFree_string value))

end Clause

theorem Filter.clauses_eq_of_toJson_eq {f f' : Filter} (h : f.toJson = f'.toJson) :
    f.clauses = f'.clauses := by
  obtain ⟨-, hbool⟩ := Json.ofMembers_singleton_inj.mp h
  obtain ⟨-, hclauses⟩ := Json.ofMembers_singleton_inj.mp hbool
  exact List.map_injective_iff.mpr Clause.toJson_injective (Json.array.inj hclauses)

/-! ## What a node computes -/

namespace Aggregation

/-- The parts of a node that divides by value. -/
def termsMembers (field : String) (size : Option Nat) : List (String × Json) :=
  [("field", .string field), ("missing", .string missingName)] ++
    (size.map fun n : Nat => ("size", Json.int n)).toList

theorem Kind.member_terms (field : String) (size : Option Nat) :
    (terms field size).member = ("terms", .ofMembers (termsMembers field size)) := by
  cases size <;> rfl

theorem ascending_termsMembers (field : String) (size : Option Nat) :
    Entries.Ascending (termsMembers field size) := by
  cases size with
  | none =>
      have hkeys : ["field", "missing"].Pairwise (· < ·) := by decide
      exact List.pairwise_map (f := Prod.fst) |>.mp hkeys
  | some n =>
      have hkeys : ["field", "missing", "size"].Pairwise (· < ·) := by decide
      exact List.pairwise_map (f := Prod.fst) |>.mp hkeys

theorem termsMembers_inj {field field' : String} {size size' : Option Nat}
    (h : Json.ofMembers (termsMembers field size) = Json.ofMembers (termsMembers field' size')) :
    field = field' ∧ size = size' := by
  have hget := Json.get?_eq_of_ofMembers_eq (ascending_termsMembers _ _).keys_nodup
    (ascending_termsMembers _ _).keys_nodup h
  have hfield : some (Json.string field) = some (Json.string field') := hget "field"
  have hsize : ∀ (field : String) (size : Option Nat),
      Entries.get? "size" (termsMembers field size) = size.map fun n : Nat => Json.int n := by
    intro field size
    cases size <;> rfl
  have hmap := hget "size"
  rw [hsize, hsize] at hmap
  refine ⟨Json.string.inj (Option.some.inj hfield), Option.map_injective (fun n m hnm => ?_) hmap⟩
  exact Int.ofNat.inj (Json.int.inj hnm)

theorem Kind.member_injective : Function.Injective Kind.member := by
  intro kind kind' h
  have hkey := congrArg Prod.fst h
  have hvalue := congrArg Prod.snd h
  cases kind with
  | terms field size =>
      cases kind' with
      | terms field' size' =>
          rw [member_terms, member_terms] at hvalue
          obtain ⟨rfl, rfl⟩ := termsMembers_inj hvalue
          rfl
      | dateHistogram | stats | filtered => exact absurd hkey (by simp [member])
  | dateHistogram interval =>
      cases kind' with
      | dateHistogram interval' =>
          have hrender := Json.get?_eq_of_ofMembers_eq (by simp) (by simp) hvalue "fixed_interval"
          rw [Interval.render_injective (Json.string.inj (Option.some.inj hrender))]
      | terms | stats | filtered => exact absurd hkey (by simp [member])
  | stats field =>
      cases kind' with
      | stats field' =>
          obtain ⟨-, hfield⟩ := Json.ofMembers_singleton_inj.mp hvalue
          rw [Json.string.inj hfield]
      | terms | dateHistogram | filtered => exact absurd hkey (by simp [member])
  | filtered clause =>
      cases kind' with
      | filtered clause' => rw [Clause.toJson_injective hvalue]
      | terms | dateHistogram | stats => exact absurd hkey (by simp [member])

/-! ## Trees -/

/-- The nodes within a node are in ascending order of their names, at any depth, and no double
stands in what is computed. -/
inductive Regular : Aggregation → Prop
  | node {name : String} {kind : Kind} {children : List Aggregation}
      (names : (children.map Aggregation.name).Pairwise (· < ·))
      (exact : kind.member.2.DoubleFree)
      (within : ∀ child ∈ children, Regular child) : Regular (.node name kind children)

/-- The members of the body of a node. -/
def bodyMembers (a : Aggregation) : List (String × Json) :=
  a.kind.member :: if a.children.isEmpty then [] else [("aggs", render a.children)]

theorem body_eq (a : Aggregation) : a.body = .ofMembers (bodyMembers a) := by
  cases a
  rw [body]
  rfl

theorem bodyMembers_keys_nodup (a : Aggregation) : ((bodyMembers a).map Prod.fst).Nodup := by
  rw [bodyMembers]
  split
  · simp
  · simp [Kind.member_ne_aggs]

/-- What a node computes is found under its key, and under the key of another kind is nothing. -/
theorem kind_eq_of_body_eq {a b : Aggregation} (h : a.body = b.body) : a.kind = b.kind := by
  rw [body_eq, body_eq] at h
  have hget := Json.get?_eq_of_ofMembers_eq (bodyMembers_keys_nodup a) (bodyMembers_keys_nodup b) h
    a.kind.member.1
  rw [bodyMembers, bodyMembers, Entries.get?_cons, if_pos rfl, Entries.get?_cons] at hget
  split at hget
  · next hkey => exact Kind.member_injective (Prod.ext hkey (Option.some.inj hget))
  · split at hget
    · cases hget
    · rw [Entries.get?_cons, if_neg (Kind.member_ne_aggs _)] at hget
      cases hget

/-- What is within a node is found under a key of its own. -/
theorem children_of_body_eq {a b : Aggregation} (h : a.body = b.body) :
    (a.children = [] ∧ b.children = []) ∨ render a.children = render b.children := by
  rw [body_eq, body_eq] at h
  have hget := Json.get?_eq_of_ofMembers_eq (bodyMembers_keys_nodup a) (bodyMembers_keys_nodup b) h
    "aggs"
  rw [bodyMembers, bodyMembers, Entries.get?_cons, if_neg (Kind.member_ne_aggs _).symm,
    Entries.get?_cons, if_neg (Kind.member_ne_aggs _).symm] at hget
  split at hget
  · next hempty =>
      split at hget
      · next hempty' => exact .inl ⟨List.isEmpty_iff.mp hempty, List.isEmpty_iff.mp hempty'⟩
      · cases hget
  · split at hget
    · cases hget
    · exact .inr (Option.some.inj hget)

/-- Siblings in the order of their names are rendered in that order. -/
theorem render_of_pairwise {nodes : List Aggregation} (h : (nodes.map name).Pairwise (· < ·)) :
    render nodes = .object (bodies nodes) := by
  rw [← bodies_keys] at h
  exact congrArg Json.object (Entries.ofPairs_of_ascending (List.pairwise_map.mp h))

theorem eq_of_bodies_eq {as bs : List Aggregation} (h : bodies as = bodies bs)
    (hinj : ∀ a ∈ as, ∀ b ∈ bs, a.name = b.name → a.body = b.body → a = b) : as = bs := by
  induction as generalizing bs with
  | nil =>
      cases bs with
      | nil => rfl
      | cons b bs => rw [bodies, bodies] at h; cases h
  | cons a as ih =>
      cases bs with
      | nil => rw [bodies, bodies] at h; cases h
      | cons b bs =>
          rw [bodies, bodies] at h
          obtain ⟨hfirst, hrest⟩ := List.cons.inj h
          obtain ⟨hname, hbody⟩ := Prod.mk.inj hfirst
          rw [hinj a List.mem_cons_self b List.mem_cons_self hname hbody,
            ih hrest fun a ha b hb => hinj a (.tail _ ha) b (.tail _ hb)]

/-- A name and a body belong to one tree. -/
theorem Regular.eq_of_body_eq {a b : Aggregation} (ha : a.Regular) (hb : b.Regular)
    (hname : a.name = b.name) (hbody : a.body = b.body) : a = b := by
  induction ha generalizing b with
  | @node aname akind achildren hnames _ _ ih =>
      cases hb with
      | @node bname bkind bchildren hnames' _ hwithin' =>
          have hkind : akind = bkind := kind_eq_of_body_eq hbody
          have hchildren : achildren = bchildren := by
            rcases children_of_body_eq hbody with ⟨hempty, hempty'⟩ | hrender
            · exact hempty.trans hempty'.symm
            · change render achildren = render bchildren at hrender
              rw [render_of_pairwise hnames, render_of_pairwise hnames'] at hrender
              exact eq_of_bodies_eq (Json.object.inj hrender) fun child hchild child' hchild' =>
                ih child hchild (hwithin' child' hchild')
          cases hkind
          cases hchildren
          cases hname
          rfl

/-- Roots of different names are found again by their names, in whatever order they were. -/
theorem mem_of_render_eq {as bs : List Aggregation} (has : ∀ a ∈ as, a.Regular)
    (hbs : ∀ b ∈ bs, b.Regular) (hnames : (as.map name).Nodup) (hnames' : (bs.map name).Nodup)
    (h : render as = render bs) : ∀ a ∈ as, a ∈ bs := by
  intro a ha
  rw [← bodies_keys] at hnames hnames'
  have hmem : (a.name, a.body) ∈ bodies as := by
    rw [bodies_eq_map]
    exact List.mem_map_of_mem ha
  have hfound := Json.get?_eq_of_ofMembers_eq hnames hnames' h a.name
  rw [← Entries.get?_ofPairs hnames, Entries.get?_ofPairs_of_mem hnames hmem] at hfound
  have hmem' := Entries.mem_of_get? hfound.symm
  rw [bodies_eq_map] at hmem'
  obtain ⟨b, hb, heq⟩ := List.mem_map.mp hmem'
  obtain ⟨hname, hbody⟩ := Prod.mk.inj heq
  rw [(has a ha).eq_of_body_eq (hbs b hb) hname.symm hbody.symm]
  exact hb

theorem perm_of_render_eq {as bs : List Aggregation} (has : ∀ a ∈ as, a.Regular)
    (hbs : ∀ b ∈ bs, b.Regular) (hnames : (as.map name).Nodup) (hnames' : (bs.map name).Nodup)
    (h : render as = render bs) : as.Perm bs :=
  (List.perm_ext_iff_of_nodup hnames.of_map hnames'.of_map).mpr fun a =>
    ⟨mem_of_render_eq has hbs hnames hnames' h a,
      mem_of_render_eq hbs has hnames' hnames h.symm a⟩

/-! ## The trees of a request -/

theorem Regular.of_leaf {name : String} {kind : Kind} (h : kind.member.2.DoubleFree) :
    (Aggregation.node name kind []).Regular := .node List.Pairwise.nil h (by simp)

theorem Regular.of_only_child {name : String} {kind : Kind} {child : Aggregation}
    (h : kind.member.2.DoubleFree) (hchild : child.Regular) :
    (Aggregation.node name kind [child]).Regular := by
  refine .node (List.pairwise_singleton _ _) h fun a ha => ?_
  rw [List.mem_singleton.mp ha]
  exact hchild

theorem doubleFree_stats (field : String) : (Kind.stats field).member.2.DoubleFree :=
  Json.doubleFree_singleton (Json.doubleFree_string field)

theorem regular_nonZeroStats (field : String) : (nonZeroStats field).Regular := by
  refine .of_only_child (Clause.doubleFree_range ?_ field) (.of_leaf (doubleFree_stats field))
  simp [Clause.bounds, Json.doubleFree_int]

theorem doubleFree_terms (field : String) (size : Option Nat) :
    (Kind.terms field size).member.2.DoubleFree := by
  refine Json.doubleFree_ofMembers ?_
  cases size <;> simp [Json.doubleFree_string, Json.doubleFree_int]

theorem doubleFree_dateHistogram (interval : Interval) :
    (Kind.dateHistogram interval).member.2.DoubleFree :=
  Json.doubleFree_ofMembers (by simp [Json.doubleFree_string])

/-- The kind of a bucket. -/
theorem doubleFree_bucketKind (options : Options) (field : String) :
    (if field = Field.time then Kind.dateHistogram options.interval
      else .terms field (options.ceiling.filter (0 < ·))).member.2.DoubleFree := by
  split
  · exact doubleFree_dateHistogram _
  · exact doubleFree_terms _ _

theorem regular_chain {options : Options} {leaves : List Aggregation}
    (hnames : (leaves.map name).Pairwise (· < ·)) (hleaves : ∀ a ∈ leaves, a.Regular) :
    ∀ (field : String) (rest : List String), (chain options leaves field rest).Regular := by
  intro field rest
  induction rest generalizing field with
  | nil => exact .node hnames (doubleFree_bucketKind options field) hleaves
  | cons next rest ih => exact .of_only_child (doubleFree_bucketKind options field) (ih next)

/-- The statistics of a report are in the order of its keys, which their names begin alike in front
of. -/
theorem nonZeroStats_names_pairwise {entries : Entries String} (h : entries.Ascending) :
    ((entries.map fun entry => nonZeroStats entry.1).map name).Pairwise (· < ·) := by
  rw [List.map_map]
  refine List.Pairwise.map _ (fun a b hlt => ?_) h
  rw [Function.comp_apply, Function.comp_apply, name_nonZeroStats, name_nonZeroStats,
    String.lt_iff_toList_lt, String.toList_append, String.toList_append]
  exact List.append_left_lt (String.lt_iff_toList_lt.mp hlt)

theorem regular_build {options : Options} {ctx : LogContext} {b : Breakdown}
    {built : Logged Aggregation} (h : build options ctx b = .ok built) : built.value.Regular := by
  obtain ⟨field, rest, -, htree⟩ := build_eq_ok h
  rw [htree]
  refine regular_chain (nonZeroStats_names_pairwise (ascending_reportEntries b)) ?_ field rest
  intro a ha
  obtain ⟨entry, -, rfl⟩ := List.mem_map.mp ha
  exact regular_nonZeroStats entry.1

theorem regular_withTotals {roots : List Aggregation} (h : ∀ root ∈ roots, root.Regular) :
    ∀ a ∈ (withTotals roots).value, a.Regular := by
  intro a ha
  rw [value_withTotals] at ha
  rcases List.mem_append.mp ha with ha | ha
  · exact h a ha
  · obtain ⟨field, rfl, -, -⟩ := mem_missingTotals.mp ha
    exact .of_leaf (doubleFree_stats Field.count)

theorem doubleFree_render {nodes : List Aggregation} (h : ∀ a ∈ nodes, a.body.DoubleFree) :
    (render nodes).DoubleFree := by
  refine Json.doubleFree_ofMembers fun entry hentry => ?_
  rw [bodies_eq_map] at hentry
  obtain ⟨a, ha, rfl⟩ := List.mem_map.mp hentry
  exact h a ha

theorem Regular.doubleFree_body {a : Aggregation} (h : a.Regular) : a.body.DoubleFree := by
  induction h with
  | node _ hexact _ ih =>
      rw [body_eq]
      refine Json.doubleFree_ofMembers (List.forall_mem_cons.mpr ⟨hexact, ?_⟩)
      split
      · simp
      · exact List.forall_mem_singleton.mpr (doubleFree_render ih)

end Aggregation

namespace RequestDraft

open Aggregation

theorem prepare_regular {d : RequestDraft} {r : SearchRequest} (h : d.prepare.value = .ok r) :
    ∀ a ∈ r.aggregations, a.Regular := by
  obtain ⟨-, trees, htrees, rfl⟩ := prepare_eq_ok h
  refine regular_withTotals ?_
  refine roots_induction (P := fun kept => ∀ root ∈ kept, root.Regular) ?_ (by simp) htrees
  intro kept within text b built hkept _ hbuilt _ root hroot
  rcases List.mem_append.mp hroot with hroot | hroot
  · exact hkept root hroot
  · rw [List.mem_singleton.mp hroot]
    exact regular_build hbuilt

theorem doubleFree_filter (d : RequestDraft) : d.filter.value.toJson.DoubleFree := by
  refine Json.doubleFree_singleton (Json.doubleFree_singleton ?_)
  refine Json.doubleFree_array fun item hitem => ?_
  obtain ⟨clause, hclause, rfl⟩ := List.mem_map.mp hitem
  rcases List.mem_cons.mp hclause with rfl | hproperty
  · exact Clause.doubleFree_range (by simp [Clause.bounds, Json.doubleFree_string]) Field.time
  · obtain ⟨key, -, hkey⟩ := List.mem_filterMap.mp hproperty
    obtain ⟨value, -, rfl⟩ := Option.map_eq_some_iff.mp hkey
    exact Clause.doubleFree_term key value

theorem doubleFree_toJson {d : RequestDraft} {r : SearchRequest} (h : d.prepare.value = .ok r) :
    r.toJson.DoubleFree := by
  have haggs := doubleFree_render fun a ha => (prepare_regular h a ha).doubleFree_body
  obtain ⟨-, trees, -, rfl⟩ := prepare_eq_ok h
  refine Json.doubleFree_ofMembers ?_
  simp only [List.forall_mem_cons]
  exact ⟨Json.doubleFree_int _, doubleFree_filter d, haggs, by simp⟩

/-- Two requests of one body, whatever drafts they come from, return as many examples, have the same
clauses in the same order, and have the same trees, in an order of their own. -/
theorem prepare_of_same_toJson {d d' : RequestDraft} {r r' : SearchRequest}
    (h : d.prepare.value = .ok r) (h' : d'.prepare.value = .ok r')
    (hsame : r.toJson.same r'.toJson = true) :
    r.size = r'.size ∧ r.filter.clauses = r'.filter.clauses ∧
      r.aggregations.Perm r'.aggregations := by
  have hbody := Json.eq_of_same hsame (doubleFree_toJson h)
  have hget := Json.get?_eq_of_ofMembers_eq (by simp) (by simp) hbody
  have hsize : some (Json.int r.size) = some (Json.int r'.size) := hget "size"
  have hfilter : some r.filter.toJson = some r'.filter.toJson := hget "query"
  have hrender : some (render r.aggregations) = some (render r'.aggregations) := hget "aggs"
  refine ⟨Int.ofNat.inj (Json.int.inj (Option.some.inj hsize)),
    Filter.clauses_eq_of_toJson_eq (Option.some.inj hfilter), ?_⟩
  exact perm_of_render_eq (prepare_regular h) (prepare_regular h') (prepare_separated h).1
    (prepare_separated h').1 (Option.some.inj hrender)

/-- A draft with a clause and with trees of every kind of node. -/
def reporting : RequestDraft :=
  { spellingEachOther with
    resultCeiling := some 5
    interval := .hour
    query := .parse "host:web1 tag:news"
    breakdowns := [some "tag/time \x7bdt: avg, count: sum\x7d", some "host"] }

/-- The same trees in another order, from other texts. -/
def reportingTurned : RequestDraft :=
  { reporting with
    query := .parse "\"any words\" host:web1"
    breakdowns := [some "host", none, some " tag / time\x7b\"count\":\"avg\", dt : min\x7d "] }

theorem prepare_of_same_reporting :
    ∃ r r', reporting.prepare.value = .ok r ∧ reportingTurned.prepare.value = .ok r' ∧
      r.toJson.same r'.toJson = true ∧
      r.aggregations.map name = ["by_tag_time", "by_host", "tag", "host"] ∧
      r'.aggregations.map name = ["by_host", "by_tag_time", "host", "tag"] ∧
      r.filter.clauses = r'.filter.clauses ∧ r.aggregations.Perm r'.aggregations := by
  have heval : (reporting.prepare.value.toOption.bind fun r =>
      reportingTurned.prepare.value.toOption.map fun r' =>
        (r.toJson.same r'.toJson, r.aggregations.map name, r'.aggregations.map name)) =
      some (true, ["by_tag_time", "by_host", "tag", "host"],
        ["by_host", "by_tag_time", "host", "tag"]) := by decide +kernel
  cases hr : reporting.prepare.value with
  | error cause => rw [hr] at heval; cases heval
  | ok r =>
      cases hr' : reportingTurned.prepare.value with
      | error cause => rw [hr, hr'] at heval; cases heval
      | ok r' =>
          rw [hr, hr'] at heval
          obtain ⟨hsame, hnames, hnames'⟩ : _ ∧ _ ∧ _ := by
            simpa [Except.toOption] using heval
          obtain ⟨-, hclauses, htrees⟩ := prepare_of_same_toJson hr hr' hsame
          exact ⟨r, r', rfl, rfl, hsame, hnames, hnames', hclauses, htrees⟩

end RequestDraft

end Rollup
