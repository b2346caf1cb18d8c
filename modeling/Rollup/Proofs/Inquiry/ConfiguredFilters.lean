import Rollup.Proofs.Filtering
import Rollup.Proofs.Inquiry.Compiled

/-!
# Filters on configured properties

The configuration takes any text without blanks and commas for the name of a
property, and a query takes only a word for one. So a configured name that is a
word can be filtered on with every value that a query can hold without quotes,
and whatever else an inquiry asks for has no part in that. A name that is no word
gets no clause from any query.
-/

namespace Rollup

namespace Config

/-- A configured name is not empty. -/
theorem ne_empty_of_mem_filterablePropsOf {env : Environment} {name : String}
    (h : name ∈ filterablePropsOf env) : name ≠ "" := by
  rw [filterablePropsOf] at h
  split at h
  · obtain ⟨piece, hpiece, rfl⟩ := List.mem_map.mp h
    exact mt String.ofList_eq_empty_iff.mp (of_decide_eq_true (List.mem_filter.mp hpiece).2)
  · rcases List.mem_cons.mp h with rfl | h
    · decide
    · rw [List.mem_singleton.mp h]
      decide

end Config

namespace Inquiry

open Rollup.Calendar Rollup.SearchQuery

variable {q : Inquiry} {config : Config} {now : Instant} {requestId : String}

/-! ## The clauses of a compiled inquiry -/

/-- The clauses behind the window come from the query and the configured names. -/
theorem clauses_of_compile {resolved : ResolvedInquiry} {r : SearchRequest}
    (hresolve : q.resolve config now requestId = .ok resolved)
    (hcompile : (resolved.compile config).value = .ok r) :
    r.filter.clauses = .window resolved.window ::
      RequestDraft.propertyClauses (.parse (q.query.getD "")) config.filterableProps := by
  obtain ⟨_, _, _, _, _, _, _, _, rfl⟩ := resolve_eq_ok.mp hresolve
  obtain ⟨-, trees, -, rfl⟩ := RequestDraft.prepare_eq_ok hcompile
  rfl

/-! ## Configured names -/

/-- A name that gets a clause from a query is a word. -/
theorem wordText_of_mem_propertyClauses {text key value : String} {names : List String}
    (h : .term key value ∈ RequestDraft.propertyClauses (.parse text) names) : WordText key := by
  obtain ⟨-, hsaid⟩ := RequestDraft.mem_propertyClauses.mp h
  obtain ⟨item, hitem, hprop⟩ := (prop?_parse.mp hsaid).exists_item
  exact wordText_of_mem_items hitem hprop

/-- An inquiry whose query is a configured name, a colon and a value is filtered on the name and the
value, if the name is made of word characters and the value has no blanks and quotes. It is compiled
unless something else is wrong in it. -/
theorem filters_configured {env : Config.Environment} {name value : String}
    (hname : name ∈ (Config.ofEnvironment env).value.filterableProps)
    (hword : ∀ c ∈ name.toList, Text.isWord c = true) (hvalue : BareValue value)
    (hquery : q.query = some (name ++ ":" ++ value)) (now : Instant) (requestId : String) :
    (∀ resolved r, q.resolve (Config.ofEnvironment env).value now requestId = .ok resolved →
      (resolved.compile (Config.ofEnvironment env).value).value = .ok r →
        .term name value ∈ r.filter.clauses) ∧
    (q.Sound (Config.ofEnvironment env).value now →
      ∃ resolved r, q.resolve (Config.ofEnvironment env).value now requestId = .ok resolved ∧
        (resolved.compile (Config.ofEnvironment env).value).value = .ok r) := by
  refine ⟨fun resolved r hresolve hcompile => ?_, fun hsound => hsound.exists_compiled requestId⟩
  have hkey : WordText name := ⟨Config.ne_empty_of_mem_filterablePropsOf hname, hword⟩
  have hsaid : (SearchQuery.parse (name ++ ":" ++ value)).prop? name = some value := by
    rw [prop?_parse, items_property hkey hvalue]
    exact .here (by simp [QueryItem.prop?])
  rw [clauses_of_compile hresolve hcompile, hquery]
  exact List.mem_cons_of_mem _ (RequestDraft.mem_propertyClauses.mpr ⟨hname, hsaid⟩)

/-- An environment that lists some names of properties and sets nothing else. -/
def listing (names : String) : Config.Environment := fun key =>
  if key = Config.filterablePropsKey then some names else none

/-- An inquiry about one day, without breakdowns. -/
def oneDayAsking (query : String) : Inquiry :=
  { empty with
    start := some "1970-01-01T00:00:00Z"
    stop := some "1970-01-02T00:00:00Z"
    query := some query
    breakdowns := some [] }

theorem sound_oneDayAsking (names query : String) (now : Instant) :
    (oneDayAsking query).Sound (Config.ofEnvironment (listing names)).value now := by
  have hdataspace : Dataspace.ofText (Config.dataspaceOf (listing names)) =
      .ok ⟨"default", by decide, by decide⟩ := by
    have hunset : listing names Config.dataspaceKey = none := if_neg (by decide)
    rw [Config.dataspaceOf, hunset]
    decide +kernel
  have hstart : Timestamp.parse (Text.trim "1970-01-01T00:00:00Z".toList) =
      .ok RequestDraft.spellingEachOther.window.start := by decide +kernel
  have hstop : Timestamp.parse (Text.trim "1970-01-02T00:00:00Z".toList) =
      .ok RequestDraft.spellingEachOther.window.stop := by decide +kernel
  refine ⟨⟨_, hdataspace⟩, ?_, ?_, nofun,
    ⟨RequestDraft.spellingEachOther.window, ⟨?_, nofun, ?_, nofun⟩, by decide⟩, nofun⟩
  · rintro given ⟨⟩
    exact ⟨_, hstop⟩
  · rintro given ⟨⟩
    exact ⟨_, hstart⟩
  · rintro given ⟨⟩
    exact hstop
  · rintro given ⟨⟩
    exact hstart

theorem filters_configured_utm :
    ∃ resolved r,
      (oneDayAsking ("utm_source" ++ ":" ++ "host:web1")).resolve
        (Config.ofEnvironment (listing "host, utm_source")).value
        RequestDraft.spellingEachOther.window.stop "req-1" = .ok resolved ∧
      (resolved.compile (Config.ofEnvironment (listing "host, utm_source")).value).value = .ok r ∧
      .term "utm_source" "host:web1" ∈ r.filter.clauses := by
  have hname : "utm_source" ∈
      (Config.ofEnvironment (listing "host, utm_source")).value.filterableProps := by
    decide +kernel
  have hword : WordText "utm_source" := by decide +kernel
  have hvalue : BareValue "host:web1" := by decide +kernel
  have hquery : (oneDayAsking ("utm_source" ++ ":" ++ "host:web1")).query =
      some ("utm_source" ++ ":" ++ "host:web1") := rfl
  obtain ⟨hfilter, hcompiled⟩ := filters_configured hname hword.2 hvalue hquery
    RequestDraft.spellingEachOther.window.stop "req-1"
  obtain ⟨resolved, r, hresolve, hcompile⟩ := hcompiled (sound_oneDayAsking _ _ _)
  exact ⟨resolved, r, hresolve, hcompile, hfilter resolved r hresolve hcompile⟩

/-- The key of a property ends at the first colon, so a configured name with a colon in it cannot be
filtered on: the value of `utm:source:spring` is that of `utm`. -/
theorem filters_configured_fails_colon :
    "utm:source" ∈ (Config.ofEnvironment (listing "utm,utm:source")).value.filterableProps ∧
      BareValue "spring" ∧
      (oneDayAsking ("utm:source" ++ ":" ++ "spring")).Sound
        (Config.ofEnvironment (listing "utm,utm:source")).value
        RequestDraft.spellingEachOther.window.stop ∧
      ∃ resolved r,
        (oneDayAsking ("utm:source" ++ ":" ++ "spring")).resolve
          (Config.ofEnvironment (listing "utm,utm:source")).value
          RequestDraft.spellingEachOther.window.stop "req-1" = .ok resolved ∧
        (resolved.compile (Config.ofEnvironment (listing "utm,utm:source")).value).value = .ok r ∧
        .term "utm" "source:spring" ∈ r.filter.clauses ∧
        .term "utm:source" "spring" ∉ r.filter.clauses := by
  have hsound := sound_oneDayAsking "utm,utm:source" ("utm:source" ++ ":" ++ "spring")
    RequestDraft.spellingEachOther.window.stop
  obtain ⟨resolved, r, hresolve, hcompile⟩ := hsound.exists_compiled "req-1"
  have hclauses := clauses_of_compile hresolve hcompile
  have hutm : (SearchQuery.parse "utm:source:spring").prop? "utm" = some "source:spring" := by
    decide +kernel
  refine ⟨by decide +kernel, by decide +kernel, hsound, resolved, r, hresolve, hcompile,
    ?_, fun hmem => ?_⟩
  · rw [hclauses]
    exact List.mem_cons_of_mem _ (RequestDraft.mem_propertyClauses.mpr ⟨by decide +kernel, hutm⟩)
  · rw [hclauses] at hmem
    cases hmem with
    | tail _ hmem =>
        exact absurd ((wordText_of_mem_propertyClauses hmem).2 ':' (by decide)) (by decide +kernel)

end Inquiry

end Rollup
