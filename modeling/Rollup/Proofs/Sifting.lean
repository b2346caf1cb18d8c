import Rollup.Proofs.Breakdown.Grammar
import Rollup.Proofs.SiblingNames

/-!
# How breakdowns are sifted

Every breakdown is built into a tree, and a tree is kept if none before it has
its name. What is logged on the way has no part in that, so the roots are a
fold over the trees of the texts, and the first text without a tree decides the
error.

Nor does anything get lost on the way: an entry of the list has its tree among
the roots, or it is left out and one record says so. `Sifted` is that account,
with one case for each thing that can become of an entry. Records that are only
remarks about a tree are told apart by their topic.
-/

namespace Rollup.LogRecord

/-- What a record of an assembly is about. -/
inductive Topic
  /-- An entry in the list of breakdowns is left out. -/
  | skip
  /-- A total is left out. -/
  | untotalled
  /-- The request is complete. -/
  | prepared
  /-- Anything else. -/
  | remark
deriving DecidableEq

def topic : LogRecord → Topic
  | breakdownBlank .. | breakdownRepeated .. => .skip
  | totalSkipped .. => .untotalled
  | searchPrepared .. => .prepared
  | _ => .remark

/-- The records about a topic, in their order. -/
def about (topic : Topic) (records : List LogRecord) : List LogRecord :=
  records.filter fun record => record.topic = topic

theorem about_append (topic : Topic) (first second : List LogRecord) :
    about topic (first ++ second) = about topic first ++ about topic second :=
  List.filter_append ..

theorem about_eq_nil {topic other : Topic} (hne : topic ≠ other) {records : List LogRecord}
    (h : ∀ record ∈ records, record.topic = other) : about topic records = [] := by
  refine List.filter_eq_nil_iff.mpr fun record hrecord => ?_
  rw [h record hrecord, decide_eq_true_eq]
  exact fun heq => hne heq.symm

theorem about_eq_self {topic : Topic} {records : List LogRecord}
    (h : ∀ record ∈ records, record.topic = topic) : about topic records = records :=
  List.filter_eq_self.mpr fun record hrecord => decide_eq_true (h record hrecord)

/-- Remarks do not count for any other topic. -/
theorem about_remarks_append {topic : Topic} (htopic : topic ≠ .remark) {remarks : List LogRecord}
    (h : ∀ record ∈ remarks, record.topic = .remark) (records : List LogRecord) :
    about topic (remarks ++ records) = about topic records := by
  rw [about_append, about_eq_nil htopic h, List.nil_append]

theorem about_cons_congr {topic : Topic} (record : LogRecord) {first second : List LogRecord}
    (h : about topic first = about topic second) :
    about topic (record :: first) = about topic (record :: second) := by
  show about topic ([record] ++ first) = about topic ([record] ++ second)
  rw [about_append, about_append, h]

end Rollup.LogRecord

namespace Rollup.Aggregation

/-! ## The tree of a breakdown -/

/-- A breakdown is built into a tree, whatever the context of the log is. -/
def Built (options : Options) (b : Breakdown) (tree : Aggregation) : Prop :=
  ∀ ctx, ∃ records, build options ctx b = .ok ⟨records, tree⟩

/-- The tree of a breakdown, without what is logged on the way. -/
def tree (options : Options) (b : Breakdown) : Except BreakdownError Aggregation :=
  match b.fields with
  | [] => .error .emptyChain
  | field :: rest =>
      .ok (chain options ((reportEntries b).map fun entry => nonZeroStats entry.1) field rest)

theorem map_value_build (options : Options) (ctx : LogContext) (b : Breakdown) :
    (build options ctx b).map Logged.value = tree options b := by
  obtain ⟨fields, operations⟩ := b
  cases fields <;> rfl

theorem tree_eq_ok {options : Options} {b : Breakdown} {t : Aggregation} :
    tree options b = .ok t ↔ Built options b t := by
  constructor
  · intro h ctx
    rw [← map_value_build options ctx] at h
    cases hbuild : build options ctx b with
    | error cause => rw [hbuild] at h; cases h
    | ok built =>
        rw [hbuild] at h
        cases h
        exact ⟨built.records, rfl⟩
  · intro h
    obtain ⟨records, hbuild⟩ := h (.ofDataspace "")
    rw [← map_value_build options (.ofDataspace ""), hbuild]
    rfl

theorem name_chain (options : Options) (leaves : List Aggregation) (field : String)
    (rest : List String) : (chain options leaves field rest).name = chainName (field :: rest) := by
  cases rest <;> rfl

theorem Built.name_eq {options : Options} {b : Breakdown} {t : Aggregation}
    (h : Built options b t) : t.name = chainName b.fields := by
  have htree := tree_eq_ok.mpr h
  rw [tree] at htree
  split at htree
  · cases htree
  · next field rest hfields =>
      cases htree
      rw [name_chain, hfields]

theorem exists_built {b : Breakdown} (h : b.fields ≠ []) (options : Options) :
    ∃ t, Built options b t := by
  obtain ⟨fields, operations⟩ := b
  cases fields with
  | nil => exact absurd rfl h
  | cons field rest => exact ⟨_, tree_eq_ok.mp rfl⟩

/-- What is logged about a tree: what is wrong with its report, and that it is built. -/
theorem mem_records_build {options : Options} {ctx : LogContext} {b : Breakdown}
    {built : Logged Aggregation} (h : build options ctx b = .ok built) {record : LogRecord}
    (hrecord : record ∈ built.records) :
    (∃ field operation chain, record = .reportFieldNotNumeric ctx field operation chain) ∨
      (∃ field operation known, record = .reportOperationUnknown ctx field operation known) ∨
      ∃ name depth, record = .aggregationBuilt ctx name depth := by
  rw [build] at h
  split at h
  · cases h
  · cases h
    rcases List.mem_append.mp hrecord with hreport | hbuilt
    · obtain ⟨entry, -, hentry⟩ := List.mem_flatMap.mp hreport
      rcases List.mem_append.mp hentry with hkind | hoperation
      · split at hkind
        · cases hkind
        · exact .inl ⟨_, _, _, List.mem_singleton.mp hkind⟩
      · split at hoperation
        · cases hoperation
        · exact .inr (.inl ⟨_, _, _, List.mem_singleton.mp hoperation⟩)
    · exact .inr (.inr ⟨_, _, List.mem_singleton.mp hbuilt⟩)

/-- What is logged about a tree are remarks. -/
theorem topic_of_build {options : Options} {ctx : LogContext} {b : Breakdown}
    {built : Logged Aggregation} (h : build options ctx b = .ok built) :
    ∀ record ∈ built.records, record.topic = .remark := by
  intro record hrecord
  obtain ⟨field, operation, chain, rfl⟩ | ⟨field, operation, known, rfl⟩ | ⟨name, depth, rfl⟩ :=
    mem_records_build h hrecord <;> rfl

end Rollup.Aggregation

namespace Rollup.RequestDraft

open Rollup.Aggregation

/-! ## The roots as a fold -/

/-- The tree of a text. -/
def textTree (options : Options) (text : String) : Except BreakdownError Aggregation :=
  Breakdown.parse text >>= tree options

/-- Puts a tree behind those that are kept, unless one of them has its name. -/
def keepNew (kept : List Aggregation) (t : Aggregation) : List Aggregation :=
  if kept.any fun root => root.name = t.name then kept else kept ++ [t]

theorem textTree_eq_ok {options : Options} {text : String} {t : Aggregation} :
    textTree options text = .ok t ↔ ∃ b, Breakdown.parse text = .ok b ∧ Built options b t := by
  rw [textTree, Except.bind_eq_ok]
  simp only [tree_eq_ok]

/-- A text that can be read has a tree, so the faults of a text are those of its reading. -/
theorem textTree_eq_error {options : Options} {text : String} {cause : BreakdownError} :
    textTree options text = .error cause ↔ Breakdown.parse text = .error cause := by
  rw [textTree, Except.bind_eq_error, or_iff_left_iff_imp]
  rintro ⟨b, hparse, htree⟩
  obtain ⟨t, ht⟩ := exists_built (Breakdown.parse_fields_ne_nil hparse) options
  rw [tree_eq_ok.mpr ht] at htree
  cases htree

/-- A text has a tree exactly if it can be read. -/
theorem exists_textTree_iff {options : Options} {text : String} :
    (∃ t, textTree options text = .ok t) ↔ ∃ b, Breakdown.parse text = .ok b := by
  simp only [textTree_eq_ok]
  constructor
  · rintro ⟨t, b, hparse, -⟩
    exact ⟨b, hparse⟩
  · rintro ⟨b, hparse⟩
    obtain ⟨t, ht⟩ := exists_built (Breakdown.parse_fields_ne_nil hparse) options
    exact ⟨t, b, hparse, ht⟩

theorem map_value_textTree (options : Options) (ctx : LogContext) (text : String) :
    (Breakdown.parse text >>= build options ctx).map Logged.value = textTree options text := by
  rw [textTree]
  cases Breakdown.parse text with
  | error cause => rfl
  | ok b => exact map_value_build options ctx b

/-- An entry without a text is passed over. -/
theorem value_roots_blank {options : Options} {entry : Option String}
    (hentry : entryText? entry = none) (ctx : LogContext) (kept : List Aggregation)
    (rest : List (Option String)) :
    (roots options ctx kept (entry :: rest)).value = (roots options ctx kept rest).value := by
  rw [roots, hentry]
  rfl

/-- One step: a text without a tree ends the walk, and a tree is kept or not. -/
theorem value_roots_cons {options : Options} {entry : Option String} {text : String}
    (hentry : entryText? entry = some text) (ctx : LogContext) (kept : List Aggregation)
    (rest : List (Option String)) :
    (roots options ctx kept (entry :: rest)).value =
      match textTree options text with
      | .error cause => .error (.breakdown cause)
      | .ok t => (roots options ctx (keepNew kept t) rest).value := by
  rw [roots, hentry, ← map_value_textTree options (ctx.withBreakdown text)]
  simp only []
  cases Breakdown.parse text >>= build options (ctx.withBreakdown text) with
  | error cause => rfl
  | ok built =>
      simp only [Except.map, keepNew]
      split <;> rfl

/-- The roots depend on the texts alone: they are the trees of all texts, folded. -/
theorem value_roots (options : Options) (ctx : LogContext) (kept : List Aggregation)
    (entries : List (Option String)) :
    (roots options ctx kept entries).value =
      match (entries.filterMap entryText?).mapM (textTree options) with
      | .error cause => .error (.breakdown cause)
      | .ok trees => .ok (trees.foldl keepNew kept) := by
  induction entries generalizing kept with
  | nil => rfl
  | cons entry rest ih =>
      rw [List.filterMap_cons]
      cases hentry : entryText? entry with
      | none => rw [value_roots_blank hentry, ih kept]
      | some text =>
          rw [value_roots_cons hentry]
          simp only [Except.mapM_cons]
          cases textTree options text with
          | error cause => rfl
          | ok t =>
              simp only [ih]
              cases List.mapM (textTree options) (rest.filterMap entryText?) <;> rfl

theorem any_name_iff {kept : List Aggregation} {name : String} :
    (kept.any fun root => root.name = name) = true ↔ name ∈ kept.map Aggregation.name := by
  simp only [List.any_eq_true, decide_eq_true_eq, List.mem_map]

theorem keepNew_of_mem {kept : List Aggregation} {t : Aggregation} (h : t.name ∈ kept.map name) :
    keepNew kept t = kept := if_pos (any_name_iff.mpr h)

theorem keepNew_of_not_mem {kept : List Aggregation} {t : Aggregation}
    (h : t.name ∉ kept.map name) : keepNew kept t = kept ++ [t] :=
  if_neg fun hany => h (any_name_iff.mp hany)

/-- What is logged at a text that has a tree. -/
theorem records_roots_text {options : Options} {ctx : LogContext} {entry : Option String}
    {text : String} {b : Breakdown} {records : List LogRecord} {t : Aggregation}
    (hentry : entryText? entry = some text) (hparse : Breakdown.parse text = .ok b)
    (hbuild : build options (ctx.withBreakdown text) b = .ok ⟨records, t⟩)
    (kept : List Aggregation) (rest : List (Option String)) :
    (roots options ctx kept (entry :: rest)).records =
      records ++ if t.name ∈ kept.map name then
        .breakdownRepeated (ctx.withBreakdown text) t.name :: (roots options ctx kept rest).records
      else (roots options ctx (kept ++ [t]) rest).records := by
  have hwhole := Except.bind_eq_ok.mpr ⟨b, hparse, hbuild⟩
  rw [roots, hentry]
  simp only [hwhole, any_name_iff]
  split <;> simp

/-- Trees of different names are all kept. -/
theorem foldl_keepNew {kept trees : List Aggregation}
    (h : ((kept ++ trees).map name).Nodup) : trees.foldl keepNew kept = kept ++ trees := by
  induction trees generalizing kept with
  | nil => rw [List.append_nil]; rfl
  | cons t rest ih =>
      have hnew : t.name ∉ kept.map name := by
        rw [List.map_append, List.map_cons] at h
        exact fun hmem => (List.nodup_append.mp h).2.2 _ hmem _ List.mem_cons_self rfl
      rw [List.append_cons] at h ⊢
      rw [List.foldl_cons, keepNew_of_not_mem hnew, ih h]

/-- A draft that has a window gets the request of its roots. -/
theorem value_prepare (d : RequestDraft) :
    d.prepare.value =
      if d.window.start.before d.window.stop then
        (roots d.options d.logContext [] d.breakdowns).value.map fun trees =>
          (d.complete d.filter.value trees).value
      else .error (.invalidTimeRange d.window.start d.window.stop) := by
  rw [prepare]
  cases d.window.start.before d.window.stop with
  | false => rfl
  | true =>
      simp only [Bool.not_true, Bool.false_eq_true, if_false, if_true]
      cases (roots d.options d.logContext [] d.breakdowns).value <;> rfl

/-- A draft is refused for its window or else for a breakdown. -/
theorem prepare_eq_error_iff {d : RequestDraft} {cause : RequestError} :
    d.prepare.value = .error cause ↔
      (d.window.start.before d.window.stop = false ∧
        cause = .invalidTimeRange d.window.start d.window.stop) ∨
      (d.window.start.before d.window.stop = true ∧ ∃ fault,
        (d.breakdowns.filterMap entryText?).mapM (textTree d.options) = .error fault ∧
          cause = .breakdown fault) := by
  rw [value_prepare]
  cases d.window.start.before d.window.stop with
  | false => simp [eq_comm]
  | true =>
      rw [if_pos rfl, value_roots]
      cases (d.breakdowns.filterMap entryText?).mapM (textTree d.options) with
      | error fault => simp [Except.map, eq_comm]
      | ok trees => simp [Except.map]

theorem prepare_of_roots {d : RequestDraft} {trees : List Aggregation}
    (hwindow : d.window.start.before d.window.stop = true)
    (htrees : (roots d.options d.logContext [] d.breakdowns).value = .ok trees) :
    d.prepare = ⟨d.filter.records ++
        (roots d.options d.logContext [] d.breakdowns).records ++
          (d.complete d.filter.value trees).records,
      .ok (d.complete d.filter.value trees).value⟩ := by
  rw [prepare, hwindow]
  simp [htrees]

/-! ## What becomes of each entry -/

/-- What becomes of the entries of a list behind the trees that are kept already: the trees that
join them, and the records about the entries that are left out, both in the order of the list. -/
inductive Sifted (options : Options) (ctx : LogContext) :
    List Aggregation → List (Option String) → List Aggregation → List LogRecord → Prop
  | done {kept : List Aggregation} : Sifted options ctx kept [] [] []
  /-- The entry is missing or blank. -/
  | blank {kept trees : List Aggregation} {entry : Option String} {rest : List (Option String)}
      {skips : List LogRecord} (entry_blank : entryText? entry = none)
      (behind : Sifted options ctx kept rest trees skips) :
      Sifted options ctx kept (entry :: rest) trees (.breakdownBlank ctx :: skips)
  /-- The tree of the entry has the name of one that is kept. -/
  | repeated {kept trees : List Aggregation} {entry : Option String} {rest : List (Option String)}
      {skips : List LogRecord} {text : String} {b : Breakdown} {t : Aggregation}
      (entry_text : entryText? entry = some text) (parsed : Breakdown.parse text = .ok b)
      (built : Built options b t) (taken : t.name ∈ kept.map name)
      (behind : Sifted options ctx kept rest trees skips) :
      Sifted options ctx kept (entry :: rest) trees
        (.breakdownRepeated (ctx.withBreakdown text) t.name :: skips)
  /-- The tree of the entry is kept. -/
  | kept {kept trees : List Aggregation} {entry : Option String} {rest : List (Option String)}
      {skips : List LogRecord} {text : String} {b : Breakdown} {t : Aggregation}
      (entry_text : entryText? entry = some text) (parsed : Breakdown.parse text = .ok b)
      (built : Built options b t) (new : t.name ∉ kept.map name)
      (behind : Sifted options ctx (kept ++ [t]) rest trees skips) :
      Sifted options ctx kept (entry :: rest) (t :: trees) skips

section

variable {options : Options} {ctx : LogContext} {kept trees : List Aggregation}
  {entries : List (Option String)} {skips : List LogRecord}

/-- Every entry is kept or recorded as left out. -/
theorem Sifted.length_eq (h : Sifted options ctx kept entries trees skips) :
    entries.length = trees.length + skips.length := by
  induction h with
  | done => rfl
  | blank _ _ ih => rw [List.length_cons, List.length_cons, ih]; rfl
  | repeated _ _ _ _ _ ih => rw [List.length_cons, List.length_cons, ih]; rfl
  | kept _ _ _ _ _ ih =>
      rw [List.length_cons, List.length_cons, ih]
      omega

theorem Sifted.topic_eq (h : Sifted options ctx kept entries trees skips) :
    ∀ record ∈ skips, record.topic = .skip := by
  induction h with
  | done => intro record hrecord; cases hrecord
  | blank _ _ ih => exact List.forall_mem_cons.mpr ⟨rfl, ih⟩
  | repeated _ _ _ _ _ ih => exact List.forall_mem_cons.mpr ⟨rfl, ih⟩
  | kept _ _ _ _ _ ih => exact ih

/-- Where the trees of all texts have different names, none is left out for its name. -/
theorem Sifted.repeated_not_mem (h : Sifted options ctx kept entries trees skips) :
    ∀ {all : List Aggregation},
      List.Forall₂ (fun text t => textTree options text = .ok t) (entries.filterMap entryText?) all →
      ((kept ++ all).map name).Nodup → ∀ within name, .breakdownRepeated within name ∉ skips := by
  induction h with
  | done => intro all _ _ within name hrecord; cases hrecord
  | blank hentry _ ih =>
      intro all hall hnodup within name hrecord
      rw [List.filterMap_cons, hentry] at hall
      rcases List.mem_cons.mp hrecord with heq | hrest
      · cases heq
      · exact ih hall hnodup within name hrest
  | repeated hentry hparse hbuilt htaken _ _ =>
      intro all hall hnodup
      rw [List.filterMap_cons, hentry] at hall
      cases hall with
      | cons htree _ =>
          rw [textTree_eq_ok.mpr ⟨_, hparse, hbuilt⟩] at htree
          cases htree
          rw [List.map_append, List.map_cons] at hnodup
          exact absurd rfl ((List.nodup_append.mp hnodup).2.2 _ htaken _ List.mem_cons_self)
  | kept hentry hparse hbuilt _ _ ih =>
      intro all hall hnodup
      rw [List.filterMap_cons, hentry] at hall
      cases hall with
      | cons htree hrest =>
          rw [textTree_eq_ok.mpr ⟨_, hparse, hbuilt⟩] at htree
          cases htree
          rw [List.append_cons] at hnodup
          exact ih hrest hnodup

/-- The roots are sifted, and all that is logged besides are remarks. -/
theorem sifted_of_roots :
    ∀ {kept all : List Aggregation}, (roots options ctx kept entries).value = .ok all →
      ∃ trees skips, all = kept ++ trees ∧ Sifted options ctx kept entries trees skips ∧
        ∀ topic ≠ .remark, LogRecord.about topic (roots options ctx kept entries).records =
          LogRecord.about topic skips := by
  induction entries with
  | nil =>
      intro kept all h
      cases h
      exact ⟨[], [], (List.append_nil kept).symm, .done, fun _ _ => rfl⟩
  | cons entry rest ih =>
      intro kept all h
      cases hentry : entryText? entry with
      | none =>
          rw [value_roots_blank hentry] at h
          obtain ⟨trees, skips, rfl, hsifted, hrecords⟩ := ih h
          refine ⟨trees, _, rfl, .blank hentry hsifted, fun topic htopic => ?_⟩
          rw [roots, hentry]
          exact LogRecord.about_cons_congr _ (hrecords topic htopic)
      | some text =>
          rw [value_roots_cons hentry] at h
          cases htree : textTree options text with
          | error cause => rw [htree] at h; cases h
          | ok t =>
              obtain ⟨b, hparse, hbuilt⟩ := textTree_eq_ok.mp htree
              obtain ⟨remarks, hbuild⟩ := hbuilt (ctx.withBreakdown text)
              have hremarks := topic_of_build hbuild
              simp only [htree] at h
              by_cases htaken : t.name ∈ kept.map name
              · -- The trees stay as they are, and one record says so.
                rw [keepNew_of_mem htaken] at h
                obtain ⟨trees, skips, rfl, hsifted, hrecords⟩ := ih h
                refine ⟨trees, _, rfl, .repeated hentry hparse hbuilt htaken hsifted,
                  fun topic htopic => ?_⟩
                rw [records_roots_text hentry hparse hbuild, if_pos htaken,
                  LogRecord.about_remarks_append htopic hremarks]
                exact LogRecord.about_cons_congr _ (hrecords topic htopic)
              · -- The rest is sifted behind one tree more.
                rw [keepNew_of_not_mem htaken] at h
                obtain ⟨trees, skips, rfl, hsifted, hrecords⟩ := ih h
                refine ⟨t :: trees, skips, by simp, .kept hentry hparse hbuilt htaken hsifted,
                  fun topic htopic => ?_⟩
                rw [records_roots_text hentry hparse hbuild, if_neg htaken,
                  LogRecord.about_remarks_append htopic hremarks]
                exact hrecords topic htopic

end

/-! ## The records of a prepared draft -/

theorem topic_of_filter (d : RequestDraft) : ∀ record ∈ d.filter.records, record.topic = .remark := by
  intro record hrecord
  rw [filter] at hrecord
  simp only [] at hrecord
  split at hrecord
  · cases hrecord
  · rw [List.mem_singleton.mp hrecord]
    rfl

theorem topic_of_missingTotals (trees : List Aggregation) :
    ∀ record ∈ (missingTotals trees).records, record.topic = .untotalled := by
  intro record hrecord
  rw [missingTotals_eq] at hrecord
  obtain ⟨field, -, rfl⟩ := List.mem_map.mp hrecord
  rfl

/-- The record that ends the log of a request: what the request holds. -/
def summary (d : RequestDraft) (r : SearchRequest) (totals : List Aggregation) : LogRecord :=
  .searchPrepared d.logContext r.index r.filter.clauses.length r.aggregations.length totals.length

theorem records_complete (d : RequestDraft) (filter : Filter) (trees : List Aggregation) :
    (d.complete filter trees).records = (missingTotals trees).records ++
      [d.summary (d.complete filter trees).value (missingTotals trees).value] := rfl

/-- What a prepared draft logs, topic by topic. -/
theorem about_prepare {d : RequestDraft} {trees : List Aggregation}
    (hwindow : d.window.start.before d.window.stop = true)
    (hroots : (roots d.options d.logContext [] d.breakdowns).value = .ok trees) :
    ∃ skips, Sifted d.options d.logContext [] d.breakdowns trees skips ∧
      LogRecord.about .skip d.prepare.records = skips ∧
      LogRecord.about .untotalled d.prepare.records = (missingTotals trees).records ∧
      LogRecord.about .prepared d.prepare.records =
        [d.summary (d.complete d.filter.value trees).value (missingTotals trees).value] := by
  obtain ⟨kept, skips, heq, hsifted, hrecords⟩ := sifted_of_roots hroots
  rw [List.nil_append] at heq
  subst heq
  have htotals := topic_of_missingTotals trees
  have hall : ∀ topic ≠ .remark, LogRecord.about topic d.prepare.records =
      LogRecord.about topic skips ++ (LogRecord.about topic (missingTotals trees).records ++
        LogRecord.about topic
          [d.summary (d.complete d.filter.value trees).value (missingTotals trees).value]) := by
    intro topic htopic
    rw [prepare_of_roots hwindow hroots, records_complete, List.append_assoc,
      LogRecord.about_remarks_append htopic (topic_of_filter d), LogRecord.about_append,
      hrecords topic htopic, LogRecord.about_append]
  refine ⟨skips, hsifted, ?_, ?_, ?_⟩
  · rw [hall _ (by decide), LogRecord.about_eq_self hsifted.topic_eq,
      LogRecord.about_eq_nil (by decide) htotals]
    exact List.append_nil skips
  · rw [hall _ (by decide), LogRecord.about_eq_nil (by decide) hsifted.topic_eq,
      LogRecord.about_eq_self htotals]
    exact List.append_nil _
  · rw [hall _ (by decide), LogRecord.about_eq_nil (by decide) hsifted.topic_eq,
      LogRecord.about_eq_nil (by decide) htotals]
    rfl

end Rollup.RequestDraft
