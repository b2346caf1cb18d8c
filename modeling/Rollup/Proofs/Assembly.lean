import Rollup.Proofs.Sifting

/-!
# Breakdowns that are all kept

A tree is named after its fields with underscores between them. Fields may hold
underscores themselves, so different chains can have one name: `a_b` and `a/b`
do. The breakdowns of a request are all kept exactly if the joined fields
differ, and different chains of fields without underscores always do: cutting
the name at its underscores gives the fields back.
-/

namespace Rollup.Aggregation

/-! ## Names of chains -/

/-- Fields without underscores are the pieces of their joined name. -/
theorem splitOn_joined {fields : List String} (hne : fields ≠ [])
    (h : ∀ field ∈ fields, '_' ∉ field.toList) :
    ("_".intercalate fields).toList.splitOn '_' = fields.map String.toList :=
  Text.splitOn_intercalate rfl hne h

theorem joined_inj {fields fields' : List String} (hne : fields ≠ []) (hne' : fields' ≠ [])
    (h : ∀ field ∈ fields, '_' ∉ field.toList) (h' : ∀ field ∈ fields', '_' ∉ field.toList)
    (heq : "_".intercalate fields = "_".intercalate fields') : fields = fields' := by
  have hpieces := splitOn_joined hne h
  rw [heq, splitOn_joined hne' h'] at hpieces
  exact (List.map_injective_iff.mpr fun _ _ => String.toList_inj.mp) hpieces.symm

end Rollup.Aggregation

namespace Rollup.RequestDraft

open Rollup.Aggregation

/-! ## Breakdowns that are all kept -/

theorem entryText?_of_parse {text : String} {b : Breakdown} (h : Breakdown.parse text = .ok b) :
    entryText? (some text) = some (Text.trimString text) := by
  have hne := Breakdown.trimString_ne_of_parse h
  rw [entryText?, Option.map_some, Option.filter_some, if_pos (by simpa using hne)]

/-- Every breakdown that can be read has a tree, also after the text is trimmed. -/
theorem exists_trees {texts : List String} {bs : List Breakdown}
    (h : List.Forall₂ (fun text b => Breakdown.parse text = .ok b) texts bs) (options : Options) :
    ∃ trees, List.Forall₂ (Built options) bs trees ∧
      ((texts.map some).filterMap entryText?).mapM (textTree options) = .ok trees := by
  induction h with
  | nil => exact ⟨[], .nil, rfl⟩
  | cons hparse _ ih =>
      obtain ⟨trees, hbuilt, htrees⟩ := ih
      obtain ⟨t, ht⟩ := exists_built (Breakdown.parse_fields_ne_nil hparse) options
      refine ⟨t :: trees, .cons ht hbuilt, ?_⟩
      have htree := textTree_eq_ok.mpr ⟨_, Breakdown.parse_trimString hparse, ht⟩
      rw [List.map_cons, List.filterMap_cons, entryText?_of_parse hparse]
      simp only [Except.mapM_cons]
      rw [htree, htrees]
      rfl

theorem fields_ne_nil_of_mem {texts : List String} {bs : List Breakdown}
    (h : List.Forall₂ (fun text b => Breakdown.parse text = .ok b) texts bs) :
    ∀ b ∈ bs, b.fields ≠ [] := by
  induction h with
  | nil => intro b hb; cases hb
  | cons hparse _ ih =>
      intro b hb
      rcases List.mem_cons.mp hb with rfl | hb
      · exact Breakdown.parse_fields_ne_nil hparse
      · exact ih b hb

/-- Trees have different names exactly if the joined fields of their breakdowns differ. -/
theorem names_nodup_iff {options : Options} {bs : List Breakdown} {trees : List Aggregation}
    (h : List.Forall₂ (Built options) bs trees) :
    (trees.map name).Nodup ↔ (bs.map fun b => "_".intercalate b.fields).Nodup := by
  have hnames : trees.map name = (bs.map fun b => "_".intercalate b.fields).map ("by_" ++ ·) := by
    induction h with
    | nil => rfl
    | cons hbuilt _ ih =>
        simp only [List.map_cons, ih, hbuilt.name_eq]
        rfl
  rw [hnames]
  exact List.nodup_map_iff fun _ _ => (String.append_right_inj "by_").mp

/-- The request has the tree of every breakdown, in order and in front of the totals, and nothing is
logged as skipped for its name. -/
structure AllKept (d : RequestDraft) (r : SearchRequest) (bs : List Breakdown) : Prop where
  roots : ∃ trees, List.Forall₂ (Built d.options) bs trees ∧
    r.aggregations = trees ++ (missingTotals trees).value
  quiet : ∀ ctx name, .breakdownRepeated ctx name ∉ d.prepare.records

/-- Where the trees have different names, the roots are all of them, and nothing is recorded as left
out for its name. -/
theorem allKept_of_nodup {d : RequestDraft} {trees : List Aggregation} {bs : List Breakdown}
    (hwindow : d.window.start.before d.window.stop = true)
    (hbuilt : List.Forall₂ (Built d.options) bs trees)
    (htrees : (d.breakdowns.filterMap entryText?).mapM (textTree d.options) = .ok trees)
    (hnames : (trees.map name).Nodup) :
    AllKept d (d.complete d.filter.value trees).value bs := by
  have hapart : (([] ++ trees).map name).Nodup := hnames
  have hroots : (roots d.options d.logContext [] d.breakdowns).value = .ok trees := by
    rw [value_roots, htrees]
    exact congrArg Except.ok (foldl_keepNew hapart)
  refine ⟨⟨trees, hbuilt, rfl⟩, fun within name hrecord => ?_⟩
  obtain ⟨skips, hsifted, hskips, -, -⟩ := about_prepare hwindow hroots
  have hskip : .breakdownRepeated within name ∈ LogRecord.about .skip d.prepare.records :=
    List.mem_filter.mpr ⟨hrecord, decide_eq_true rfl⟩
  rw [hskips] at hskip
  exact hsifted.repeated_not_mem (Except.mapM_eq_ok.mp htrees) hapart within name hskip

/-- Breakdowns that can all be read give a request, and all of them are kept exactly if their fields,
joined with underscores, differ. Different chains of fields without underscores always do. -/
theorem prepare_keeps_all_iff {d : RequestDraft} {texts : List String} {bs : List Breakdown}
    (hlist : d.breakdowns = texts.map some)
    (hparse : List.Forall₂ (fun text b => Breakdown.parse text = .ok b) texts bs)
    (hwindow : d.window.start.before d.window.stop = true) :
    ∃ r, d.prepare.value = .ok r ∧
      (AllKept d r bs ↔ (bs.map fun b => "_".intercalate b.fields).Nodup) ∧
      ((bs.map Breakdown.fields).Nodup →
        (∀ b ∈ bs, ∀ field ∈ b.fields, '_' ∉ field.toList) → AllKept d r bs) := by
  obtain ⟨trees, hbuilt, htrees⟩ := exists_trees hparse d.options
  rw [← hlist] at htrees
  have hroots : (roots d.options d.logContext [] d.breakdowns).value =
      .ok (trees.foldl keepNew []) := by rw [value_roots, htrees]
  have hprepare : d.prepare.value =
      .ok (d.complete d.filter.value (trees.foldl keepNew [])).value := by
    rw [prepare_of_roots hwindow hroots]
  have hiff := names_nodup_iff hbuilt
  have hkept : (trees.map name).Nodup →
      AllKept d (d.complete d.filter.value (trees.foldl keepNew [])).value bs := by
    intro hnames
    have hapart : (([] ++ trees).map name).Nodup := hnames
    rw [foldl_keepNew hapart]
    exact allKept_of_nodup hwindow hbuilt htrees hnames
  refine ⟨_, hprepare, ⟨fun h => ?_, fun h => hkept (hiff.mpr h)⟩, fun hchains hplain => ?_⟩
  · obtain ⟨⟨all, hall, heq⟩, -⟩ := h
    have hnames := (prepare_separated hprepare).1
    rw [heq, List.map_append] at hnames
    exact (names_nodup_iff hall).mp (List.nodup_append.mp hnames).1
  · refine hkept (hiff.mpr ?_)
    have hjoined : (bs.map fun b => "_".intercalate b.fields) =
        (bs.map Breakdown.fields).map "_".intercalate := by
      rw [List.map_map]
      rfl
    rw [hjoined]
    refine List.Nodup.map_on (fun fields hfields fields' hfields' heq => ?_) hchains
    obtain ⟨b, hb, rfl⟩ := List.mem_map.mp hfields
    obtain ⟨b', hb', rfl⟩ := List.mem_map.mp hfields'
    have hne := fields_ne_nil_of_mem hparse
    exact joined_inj (hne b hb) (hne b' hb') (hplain b hb) (hplain b' hb') heq

/-- One day of one dataspace, with a list of breakdowns. -/
def oneDay (texts : List String) : RequestDraft :=
  { spellingEachOther with breakdowns := texts.map some }

/-- Chains that share fields, with blanks around one and a report behind another. -/
def sharing : List String := ["tag", " tag/host ", "host/tag {dt: avg}"]

theorem prepare_keeps_all_sharing :
    ∃ r, (oneDay sharing).prepare.value = .ok r ∧
      AllKept (oneDay sharing) r [⟨["tag"], none⟩, ⟨["tag", "host"], none⟩,
        ⟨["host", "tag"], some (.ofPairs [("dt", "avg")])⟩] := by
  have hparse : List.Forall₂ (fun text b => Breakdown.parse text = .ok b) sharing
      [⟨["tag"], none⟩, ⟨["tag", "host"], none⟩,
        ⟨["host", "tag"], some (.ofPairs [("dt", "avg")])⟩] :=
    .cons (by decide +kernel) (.cons (by decide +kernel) (.cons (by decide +kernel) .nil))
  have hlist : (oneDay sharing).breakdowns = sharing.map some := rfl
  obtain ⟨r, hr, -, hkept⟩ := prepare_keeps_all_iff hlist hparse (by decide)
  exact ⟨r, hr, hkept (by decide) (by decide)⟩

/-- The chains `a_b` and `a/b` differ, and only the first of them has a root. -/
theorem prepare_drops_joined_alike :
    List.Forall₂ (fun text b => Breakdown.parse text = .ok b) ["a_b", "a/b"]
        [⟨["a_b"], none⟩, ⟨["a", "b"], none⟩] ∧
      (oneDay ["a_b", "a/b"]).window.start.before (oneDay ["a_b", "a/b"]).window.stop = true ∧
      ∃ r, (oneDay ["a_b", "a/b"]).prepare.value = .ok r ∧
        r.aggregations.map name = ["by_a_b", "a_b"] ∧
        ¬ AllKept (oneDay ["a_b", "a/b"]) r [⟨["a_b"], none⟩, ⟨["a", "b"], none⟩] := by
  have hparse : List.Forall₂ (fun text b => Breakdown.parse text = .ok b) ["a_b", "a/b"]
      [⟨["a_b"], none⟩, ⟨["a", "b"], none⟩] :=
    .cons (by decide +kernel) (.cons (by decide +kernel) .nil)
  have hnames : ((oneDay ["a_b", "a/b"]).prepare.value.toOption.map fun r =>
      r.aggregations.map name) = some ["by_a_b", "a_b"] := by decide +kernel
  obtain ⟨r, hr, hroots⟩ := exists_of_map_prepare hnames
  refine ⟨hparse, by decide, r, hr, hroots, fun ⟨⟨trees, hbuilt, heq⟩, _⟩ => ?_⟩
  -- The second tree would be a root of the name `by_a_b`, and the second root is `a_b`.
  cases hbuilt with
  | cons _ hrest =>
      cases hrest with
      | cons hsecond _ =>
          rw [heq] at hroots
          have hname := (List.cons.inj (List.cons.inj hroots).2).1
          rw [hsecond.name_eq] at hname
          exact absurd hname (by decide)

end Rollup.RequestDraft
