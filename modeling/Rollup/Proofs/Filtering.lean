import Rollup.Proofs.Assembly
import Rollup.Proofs.SearchQuery.Properties

/-!
# What a query lets through

The filter of a request is its window and one clause for each property on the
list that the query has. So two queries that say the same about the properties
on the list give one request, whatever else they say. What else a query says is
told in one record, which holds the keys that are not on the list and all terms.

A property is on one side only. It is told apart by its key, because a term may
read like the key of a clause: of `host host:web1` the term `host` is told, and
the property `host` is filtered on.
-/

namespace Rollup.LogRecord

/-- What a record says was ignored, and in which context. -/
def ignored? : LogRecord → Option (LogContext × List String)
  | queryTermsIgnored ctx terms => some (ctx, terms)
  | _ => none

end Rollup.LogRecord

namespace Rollup.RequestDraft

open Rollup.Aggregation Rollup.SearchQuery

/-- The draft with the query of a text. -/
def asking (d : RequestDraft) (text : String) : RequestDraft := { d with query := .parse text }

/-! ## The clauses of a query -/

/-- The clauses for a list of names: each name that the items say a value for has one clause with
the first such value, in the order of the list. -/
inductive Filters (items : List QueryItem) : List String → List Clause → Prop
  | done : Filters items [] []
  | said {key value : String} {keys : List String} {clauses : List Clause}
      (first : FirstSaid key value items) (behind : Filters items keys clauses) :
      Filters items (key :: keys) (.term key value :: clauses)
  | silent {key : String} {keys : List String} {clauses : List Clause}
      (none_said : ∀ value, ¬ FirstSaid key value items) (behind : Filters items keys clauses) :
      Filters items (key :: keys) clauses

theorem filters_propertyClauses (text : String) (filterable : List String) :
    Filters (items text.toList) filterable (propertyClauses (.parse text) filterable) := by
  induction filterable with
  | nil => exact .done
  | cons key rest ih =>
      rw [propertyClauses, List.filterMap_cons]
      cases hsaid : (SearchQuery.parse text).prop? key with
      | none =>
          refine .silent (fun value hfirst => ?_) ih
          rw [prop?_parse.mpr hfirst] at hsaid
          cases hsaid
      | some value => exact .said (prop?_parse.mp hsaid) ih

/-- The clauses read nothing of a query but the names on the list. -/
theorem propertyClauses_congr {query other : SearchQuery} {filterable : List String}
    (h : ∀ key ∈ filterable, query.prop? key = other.prop? key) :
    propertyClauses query filterable = propertyClauses other filterable :=
  List.filterMap_congr fun key hkey => by rw [h key hkey]

theorem mem_propertyClauses {query : SearchQuery} {filterable : List String} {key value : String} :
    .term key value ∈ propertyClauses query filterable ↔
      key ∈ filterable ∧ query.prop? key = some value := by
  rw [propertyClauses, List.mem_filterMap]
  constructor
  · rintro ⟨name, hname, hclause⟩
    obtain ⟨said, hsaid, heq⟩ := Option.map_eq_some_iff.mp hclause
    cases heq
    exact ⟨hname, hsaid⟩
  · rintro ⟨hkey, hsaid⟩
    exact ⟨key, hkey, by rw [hsaid]; rfl⟩

/-! ## What is told of a query -/

/-- The keys of a query that are not on the list. -/
def unlisted (query : SearchQuery) (filterable : List String) : List String :=
  (query.props.map Prod.fst).filter fun key => !filterable.contains key

theorem mem_unlisted {query : SearchQuery} {filterable : List String} {key : String} :
    key ∈ unlisted query filterable ↔ (∃ value, (key, value) ∈ query.props) ∧ key ∉ filterable := by
  rw [unlisted, List.mem_filter, List.mem_map]
  simp

/-- Trees are built without a word about the query. -/
theorem ignored?_of_build {options : Options} {ctx : LogContext} {b : Breakdown}
    {built : Logged Aggregation} (h : build options ctx b = .ok built) :
    ∀ record ∈ built.records, record.ignored? = none := by
  intro record hrecord
  obtain ⟨field, operation, chain, rfl⟩ | ⟨field, operation, known, rfl⟩ | ⟨name, depth, rfl⟩ :=
    mem_records_build h hrecord <;> rfl

theorem ignored?_of_roots (options : Options) (ctx : LogContext) (entries : List (Option String)) :
    ∀ kept, ∀ record ∈ (roots options ctx kept entries).records, record.ignored? = none := by
  induction entries with
  | nil => exact fun kept => List.forall_mem_nil _
  | cons entry rest ih =>
      intro kept record hrecord
      rw [roots] at hrecord
      split at hrecord
      · rcases List.mem_cons.mp hrecord with rfl | hrest
        · rfl
        · exact ih kept record hrest
      · next text hentry =>
          simp only [] at hrecord
          split at hrecord
          · cases hrecord
          · next built hbuilt =>
              obtain ⟨b, -, hbuild⟩ := Except.bind_eq_ok.mp hbuilt
              split at hrecord
              · rcases List.mem_append.mp hrecord with hskip | hrest
                · rcases List.mem_append.mp hskip with hremark | hskip
                  · exact ignored?_of_build hbuild record hremark
                  · rw [List.mem_singleton.mp hskip]
                    rfl
                · exact ih kept record hrest
              · rcases List.mem_append.mp hrecord with hremark | hrest
                · exact ignored?_of_build hbuild record hremark
                · exact ih _ record hrest

theorem ignored?_of_complete (d : RequestDraft) (filter : Filter) (trees : List Aggregation) :
    ∀ record ∈ (d.complete filter trees).records, record.ignored? = none := by
  intro record hrecord
  rw [records_complete, missingTotals_eq] at hrecord
  rcases List.mem_append.mp hrecord with htotal | hsummary
  · obtain ⟨field, -, rfl⟩ := List.mem_map.mp htotal
    rfl
  · rw [List.mem_singleton.mp hsummary]
    rfl

/-- Once the window is checked, what is told of a query is told with the filter, whatever becomes of
the breakdowns. -/
theorem ignored_prepare {d : RequestDraft} (hwindow : d.window.start.before d.window.stop = true) :
    d.prepare.records.filterMap LogRecord.ignored? =
      d.filter.records.filterMap LogRecord.ignored? := by
  have hroots := List.filterMap_eq_nil_iff.mpr
    (ignored?_of_roots d.options d.logContext d.breakdowns [])
  rw [prepare, hwindow]
  simp only [Bool.not_true, Bool.false_eq_true, if_false]
  split
  · rw [List.filterMap_append, hroots, List.append_nil]
  · next trees _ =>
      have hcomplete :=
        List.filterMap_eq_nil_iff.mpr (ignored?_of_complete d d.filter.value trees)
      rw [List.filterMap_append, List.filterMap_append, hroots, hcomplete, List.append_nil,
        List.append_nil]

theorem ignored_filter (d : RequestDraft) :
    d.filter.records.filterMap LogRecord.ignored? =
      if ignoredTerms d.query d.filterableProps = [] then []
      else [(d.logContext, ignoredTerms d.query d.filterableProps)] := by
  rw [filter]
  simp only []
  split <;> rfl

/-! ## The two sides of a query -/

/-- A query is divided between the clauses of a filter and what is told of it. -/
structure Divided (text : String) (filterable : List String) (clauses : List Clause)
    (keys terms : List String) : Prop where
  clauses_filter : Filters (items text.toList) filterable clauses
  mem_keys : ∀ key, key ∈ keys ↔
    (∃ value, FirstSaid key value (items text.toList)) ∧ key ∉ filterable
  mem_terms : ∀ term, term ∈ terms ↔ .term term.toList ∈ items text.toList ∧ term ≠ ""
  /-- A property is filtered on or told of, and not both. -/
  either : ∀ property ∈ (SearchQuery.parse text).props,
    (.term property.1 property.2 ∈ clauses ∧ property.1 ∉ keys) ∨
      (property.1 ∈ keys ∧ ∀ value, .term property.1 value ∉ clauses)

theorem divided_parse (text : String) (filterable : List String) :
    Divided text filterable (propertyClauses (.parse text) filterable)
      (unlisted (.parse text) filterable) (SearchQuery.parse text).terms where
  clauses_filter := filters_propertyClauses text filterable
  mem_keys key := by simp only [mem_unlisted, mem_props_parse]
  mem_terms term := mem_terms_parse
  either := by
    rintro ⟨key, value⟩ hmem
    by_cases hkey : key ∈ filterable
    · have hsaid := prop?_parse.mpr (mem_props_parse.mp hmem)
      exact .inl ⟨mem_propertyClauses.mpr ⟨hkey, hsaid⟩,
        fun htold => (mem_unlisted.mp htold).2 hkey⟩
    · exact .inr ⟨mem_unlisted.mpr ⟨⟨value, hmem⟩, hkey⟩,
        fun other hclause => hkey (mem_propertyClauses.mp hclause).1⟩

/-- A draft with the query of a text is filtered on its window and on the properties that are on the
list, and on nothing else of the text: a text that says the same about those gives the same result.
The rest of the text is told in one record, if there is a rest. -/
theorem prepare_asking (d : RequestDraft) (text : String) :
    (∃ clauses keys terms, Divided text d.filterableProps clauses keys terms ∧
      (d.window.start.before d.window.stop = true →
        (d.asking text).prepare.records.filterMap LogRecord.ignored? =
          if keys ++ terms = [] then [] else [(d.logContext, keys ++ terms)]) ∧
      ∀ r, (d.asking text).prepare.value = .ok r →
        d.window.start.before d.window.stop = true ∧
          r.filter.clauses = .window d.window :: clauses) ∧
    ∀ other, (∀ key ∈ d.filterableProps,
        (SearchQuery.parse text).prop? key = (SearchQuery.parse other).prop? key) →
      (d.asking text).prepare.value = (d.asking other).prepare.value := by
  refine ⟨⟨_, _, _, divided_parse text d.filterableProps, fun hwindow => ?_, fun r hr => ?_⟩,
    fun other hagree => ?_⟩
  · exact (ignored_prepare (d := d.asking text) hwindow).trans (ignored_filter (d.asking text))
  · obtain ⟨hwindow, trees, -, rfl⟩ := prepare_eq_ok hr
    exact ⟨hwindow, rfl⟩
  · have hfilter : (d.asking text).filter.value = (d.asking other).filter.value :=
      congrArg (fun clauses => Filter.mk (.window d.window :: clauses))
        (propertyClauses_congr hagree)
    rw [value_prepare, value_prepare, hfilter]
    rfl

/-- One day of one dataspace, filtered on `campaign`, which is listed twice, and `host`. -/
def listingTwice : RequestDraft :=
  { oneDay ["tag"] with filterableProps := ["campaign", "host", "campaign"] }

/-- A phrase and a value with colons in them, an item right behind a quote, a key that comes twice,
and a term that reads like a key. -/
def crowdedText : String :=
  "\"host:db\" host:web1 user:u1:2 campaign:\"spring sale\"host:web2 host \"\""

theorem prepare_asking_crowded :
    (∃ r clauses keys terms, (listingTwice.asking crowdedText).prepare.value = .ok r ∧
      Divided crowdedText listingTwice.filterableProps clauses keys terms ∧
      r.filter.clauses = .window listingTwice.window :: clauses ∧
      r.filter.clauses.map Clause.field = ["time", "campaign", "host", "campaign"] ∧
      keys ++ terms = ["user", "host:db", "host"]) ∧
    (listingTwice.asking crowdedText).prepare.value =
      (listingTwice.asking "campaign:\"spring sale\" host:web1").prepare.value := by
  have hagree : ∀ key ∈ listingTwice.filterableProps, (SearchQuery.parse crowdedText).prop? key =
      (SearchQuery.parse "campaign:\"spring sale\" host:web1").prop? key := by decide +kernel
  have hfields : ((listingTwice.asking crowdedText).prepare.value.toOption.map fun r =>
      r.filter.clauses.map Clause.field) = some ["time", "campaign", "host", "campaign"] := by
    decide +kernel
  have htold : (listingTwice.asking crowdedText).prepare.records.filterMap LogRecord.ignored? =
      [(.ofDataspace "web", ["user", "host:db", "host"])] := by decide +kernel
  obtain ⟨⟨clauses, keys, terms, hdivided, hrecords, hclauses⟩, hsame⟩ :=
    prepare_asking listingTwice crowdedText
  obtain ⟨r, hr, hfields⟩ := exists_of_map_prepare hfields
  refine ⟨⟨r, clauses, keys, terms, hr, hdivided, (hclauses r hr).2, hfields, ?_⟩, hsame _ hagree⟩
  rw [htold] at hrecords
  have hall := hrecords (by decide)
  split at hall
  · cases hall
  · exact (congrArg Prod.snd (List.cons.inj hall).1).symm

end Rollup.RequestDraft
