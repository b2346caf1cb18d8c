import Rollup.Proofs.Dataspace
import Rollup.Proofs.Inquiry.Compiled
import Rollup.Proofs.OneLine

/-!
# How many lines a record has

A record shows most of what it says in quotes or as a number, and some texts as
they are. It is on one line exactly if those texts are: the dataspace and the
name of the request, the text of the breakdown it stands in, names, the index,
and the wording of an error. Names come from field names, which hold no blanks,
and the wording of an error quotes what it shows. So three texts are left that
can break a line: the dataspace, the breakdowns, and the text in front of the
dataspace in the name of the index.

A dataspace and a breakdown are trimmed and may hold any blank inside, so a line
feed there is shown as it is, and the rest of the text stands on a line of its
own, like a record.
-/

namespace Rollup

open Text

/-- Texts on one line each. -/
def EachOneLine (ss : List String) : Prop := ∀ s ∈ ss, OneLine s.toList

theorem eachOneLine_nil : EachOneLine [] := nofun

theorem eachOneLine_cons {s : String} {ss : List String} :
    EachOneLine (s :: ss) ↔ OneLine s.toList ∧ EachOneLine ss := List.forall_mem_cons

namespace LogContext

/-- The texts of a context. They are shown as they are. -/
def shown (ctx : LogContext) : List String :=
  ctx.dataspace :: (ctx.requestId.toList ++ ctx.breakdown.toList)

theorem oneLine_display (ctx : LogContext) :
    OneLine ctx.display.toList ↔ EachOneLine ctx.shown := by
  obtain ⟨dataspace, requestId, breakdown⟩ := ctx
  have hfield {label s : String} (hlabel : OneLine label.toList) :
      OneLine (label ++ s ++ "]").toList ↔ OneLine s.toList := by
    simp only [oneLine_append_toList]
    exact ⟨fun h => h.1.2, fun h => ⟨⟨hlabel, h⟩, by decide⟩⟩
  simp only [display, shown, EachOneLine]
  rw [oneLine_append_toList, oneLine_append_toList, hfield (by decide), List.forall_mem_cons,
    List.forall_mem_append, and_assoc]
  refine and_congr_right fun _ => and_congr ?_ ?_
  · cases requestId with
    | none => exact iff_of_true (by decide) nofun
    | some id =>
        rw [Option.toList_some, List.forall_mem_singleton]
        exact hfield (by decide)
  · cases breakdown with
    | none => exact iff_of_true (by decide) nofun
    | some text =>
        rw [Option.toList_some, List.forall_mem_singleton]
        exact hfield (by decide)

end LogContext

namespace LogRecord

/-- The texts that a record shows as they are, without quotes. -/
def shown : LogRecord → List String
  | aggregationBuilt ctx name _ => name :: ctx.shown
  | reportFieldNotNumeric ctx .. => ctx.shown
  | reportOperationUnknown ctx .. => ctx.shown
  | totalSkipped name => [name]
  | breakdownBlank ctx => ctx.shown
  | breakdownRepeated ctx name => name :: ctx.shown
  | queryTermsIgnored ctx _ => ctx.shown
  | searchPrepared ctx index .. => index :: ctx.shown
  | queryReceived ctx .. => ctx.shown
  | queryRejected ctx error => error.message :: ctx.shown
  | configValueIgnored key _ => [key]

/-- A record is on one line exactly if the texts are that it shows as they are. -/
theorem oneLine_message (r : LogRecord) :
    OneLine r.message.toList ↔ EachOneLine r.shown := by
  unfold message
  cases r
  all_goals
    simp +decide only [EachOneLine, oneLine_append_toList, shown, LogContext.oneLine_display, oneLine_nat,
      oneLine_quote, oneLine_quoteList, oneLine_render, Calendar.Instant.oneLine_stampOffset,
      List.forall_mem_cons, true_and, and_comm]

end LogRecord

namespace Aggregation

variable {options : Options} {ctx : LogContext} {b : Breakdown} {built : Logged Aggregation}

/-- The last thing that is logged about a tree is its name. Before that only fields and operations
are shown, and those in quotes. -/
theorem exists_records_build (h : build options ctx b = .ok built) :
    ∃ remarks, built.records =
        remarks ++ [.aggregationBuilt ctx built.value.name b.fields.length] ∧
      ∀ record ∈ remarks, record.shown = ctx.shown := by
  rw [build] at h
  split at h
  · cases h
  · cases h
    refine ⟨_, rfl, fun record hrecord => ?_⟩
    obtain ⟨entry, -, hentry⟩ := List.mem_flatMap.mp hrecord
    rcases List.mem_append.mp hentry with hkind | hoperation
    · split at hkind
      · cases hkind
      · rw [List.mem_singleton.mp hkind]
        rfl
    · split at hoperation
      · cases hoperation
      · rw [List.mem_singleton.mp hoperation]
        rfl

theorem oneLine_name_of_build {text : String} (hparse : Breakdown.parse text = .ok b)
    (h : build options ctx b = .ok built) : OneLine built.value.name.toList := by
  obtain ⟨field, rest, hfields, htree⟩ := build_eq_ok h
  rw [htree, name_chain, chainName, oneLine_append_toList, ← hfields]
  exact ⟨by decide, oneLine_intercalate (by decide) (Breakdown.oneLine_fields_of_parse hparse)⟩

theorem oneLine_records_build {text : String} (hparse : Breakdown.parse text = .ok b)
    (h : build options ctx b = .ok built) :
    (∀ record ∈ built.records, OneLine record.message.toList) ↔ EachOneLine ctx.shown := by
  obtain ⟨remarks, hrecords, hremarks⟩ := exists_records_build h
  rw [hrecords, List.forall_mem_append, List.forall_mem_singleton, LogRecord.oneLine_message]
  constructor
  · rintro ⟨-, hbuilt⟩
    exact (List.forall_mem_cons.mp hbuilt).2
  · intro hctx
    refine ⟨fun record hrecord => ?_,
      List.forall_mem_cons.mpr ⟨oneLine_name_of_build hparse h, hctx⟩⟩
    rw [LogRecord.oneLine_message, hremarks record hrecord]
    exact hctx

end Aggregation

namespace RequestDraft

open Aggregation

variable {options : Options} {ctx : LogContext}

/-- Whether a text is a breakdown. -/
def isRead (text : String) : Bool := (Breakdown.parse text).isOk

/-- The texts in a list of breakdowns that are read: those before the first that is refused. -/
def readTexts (entries : List (Option String)) : List String :=
  (entries.filterMap entryText?).takeWhile isRead

theorem shown_withBreakdown (hctx : EachOneLine ctx.shown) (text : String) :
    EachOneLine (ctx.withBreakdown text).shown ↔ OneLine text.toList := by
  obtain ⟨hdataspace, hrest⟩ := List.forall_mem_cons.mp hctx
  constructor
  · intro h
    exact h text (by simp [LogContext.withBreakdown, LogContext.shown])
  · intro htext s hs
    simp only [LogContext.withBreakdown, LogContext.shown, Option.toList_some, List.mem_cons,
      List.mem_append, List.not_mem_nil, or_false] at hs
    rcases hs with rfl | hs | rfl
    · exact hdataspace
    · exact hrest s (List.mem_append_left _ hs)
    · exact htext

/-- Of the breakdowns, those that are read show in the log as they are. -/
theorem oneLine_records_roots (options : Options) (hctx : EachOneLine ctx.shown)
    (kept : List Aggregation) (entries : List (Option String)) :
    (∀ record ∈ (roots options ctx kept entries).records, OneLine record.message.toList) ↔
      EachOneLine (readTexts entries) := by
  induction entries generalizing kept with
  | nil => exact iff_of_true (List.forall_mem_nil _) eachOneLine_nil
  | cons entry rest ih =>
      cases hentry : entryText? entry with
      | none =>
          have hblank : OneLine (LogRecord.breakdownBlank ctx).message.toList :=
            (LogRecord.oneLine_message _).mpr hctx
          rw [readTexts, List.filterMap_cons_none hentry, roots, hentry]
          exact List.forall_mem_cons.trans ((and_iff_right hblank).trans (ih kept))
      | some text =>
          rw [readTexts, List.filterMap_cons_some hentry]
          cases hparse : Breakdown.parse text with
          -- The walk ends here, and nothing is said about this text.
          | error cause =>
              have hread : ¬ isRead text = true := by
                rw [isRead, hparse]
                exact Bool.false_ne_true
              rw [List.takeWhile_cons_of_neg hread, roots, hentry]
              simp only [hparse]
              exact iff_of_true (List.forall_mem_nil _) eachOneLine_nil
          | ok b =>
              have hread : isRead text = true := by
                rw [isRead, hparse]
                rfl
              obtain ⟨t, ht⟩ := exists_built (Breakdown.parse_fields_ne_nil hparse) options
              obtain ⟨records, hbuild⟩ := ht (ctx.withBreakdown text)
              have hrecords := (oneLine_records_build hparse hbuild).trans
                (shown_withBreakdown hctx text)
              have hrepeated : OneLine text.toList →
                  OneLine (LogRecord.breakdownRepeated (ctx.withBreakdown text) t.name).message.toList := by
                intro htext
                rw [LogRecord.oneLine_message]
                exact List.forall_mem_cons.mpr ⟨oneLine_name_of_build hparse hbuild,
                  (shown_withBreakdown hctx text).mpr htext⟩
              rw [List.takeWhile_cons_of_pos hread, records_roots_text hentry hparse hbuild,
                List.forall_mem_append, hrecords]
              refine (and_congr_right fun htext => ?_).trans eachOneLine_cons.symm
              split
              · exact List.forall_mem_cons.trans ((and_iff_right (hrepeated htext)).trans (ih kept))
              · exact ih _

theorem oneLine_names_of_roots {entries : List (Option String)} {trees : List Aggregation}
    (h : (roots options ctx [] entries).value = .ok trees) : EachOneLine (trees.map name) := by
  have htrees := roots_induction (P := fun kept => EachOneLine (kept.map name)) ?_
    (show EachOneLine (List.map name []) from eachOneLine_nil) h
  · exact htrees
  · intro kept within text b built hkept hparse hbuilt _
    rw [List.map_append]
    exact List.forall_mem_append.mpr
      ⟨hkept, List.forall_mem_singleton.mpr (oneLine_name_of_build hparse hbuilt)⟩

theorem oneLine_records_complete {d : RequestDraft} (hctx : EachOneLine d.logContext.shown)
    {trees : List Aggregation}
    (htrees : (roots d.options d.logContext [] d.breakdowns).value = .ok trees) (filter : Filter) :
    (∀ record ∈ (d.complete filter trees).records, OneLine record.message.toList) ↔
      OneLine (d.dataspace.indexName d.indexStem).toList := by
  have hskipped : ∀ record ∈ (missingTotals trees).records, OneLine record.message.toList := by
    intro record hrecord
    rw [missingTotals_eq] at hrecord
    obtain ⟨field, hfield, rfl⟩ := List.mem_map.mp hrecord
    have hname := of_decide_eq_true (List.mem_filter.mp hfield).2
    exact (LogRecord.oneLine_message _).mpr
      (List.forall_mem_singleton.mpr (oneLine_names_of_roots htrees field hname))
  rw [records_complete, List.forall_mem_append, and_iff_right hskipped, List.forall_mem_singleton,
    LogRecord.oneLine_message]
  exact List.forall_mem_cons.trans (and_iff_left hctx)

theorem oneLine_records_filter {d : RequestDraft} (hctx : EachOneLine d.logContext.shown) :
    ∀ record ∈ d.filter.records, OneLine record.message.toList := by
  intro record hrecord
  rw [filter] at hrecord
  dsimp only at hrecord
  split at hrecord
  · cases hrecord
  · rw [List.mem_singleton.mp hrecord, LogRecord.oneLine_message]
    exact hctx

theorem prepare_of_roots_error {d : RequestDraft} {cause : RequestError}
    (hwindow : d.window.start.before d.window.stop = true)
    (hroots : (roots d.options d.logContext [] d.breakdowns).value = .error cause) :
    d.prepare = ⟨d.filter.records ++ (roots d.options d.logContext [] d.breakdowns).records,
      .error cause⟩ := by
  rw [prepare, hwindow]
  simp [hroots]

/-- Assembling shows the breakdowns as they are, and the index if it comes to that. -/
theorem oneLine_records_prepare {d : RequestDraft} (hctx : EachOneLine d.logContext.shown) :
    (∀ record ∈ d.prepare.records, OneLine record.message.toList) ↔
      (d.window.start.before d.window.stop = true → EachOneLine (readTexts d.breakdowns)) ∧
        ((∃ r, d.prepare.value = .ok r) → OneLine (d.dataspace.indexName d.indexStem).toList) := by
  have hroots := oneLine_records_roots d.options hctx [] d.breakdowns
  cases hwindow : d.window.start.before d.window.stop with
  | false =>
      rw [prepare, hwindow]
      refine iff_of_true (List.forall_mem_nil _) ⟨fun h => Bool.noConfusion h, ?_⟩
      rintro ⟨r, hr⟩
      cases hr
  | true =>
      rw [forall_prop_of_true rfl, ← hroots]
      cases htrees : (roots d.options d.logContext [] d.breakdowns).value with
      | error cause =>
          rw [prepare_of_roots_error hwindow htrees, List.forall_mem_append,
            and_iff_right (oneLine_records_filter hctx)]
          refine (and_iff_left ?_).symm
          rintro ⟨r, hr⟩
          cases hr
      | ok trees =>
          rw [prepare_of_roots hwindow htrees, List.forall_mem_append, List.forall_mem_append,
            and_iff_right (oneLine_records_filter hctx), oneLine_records_complete hctx htrees]
          exact and_congr_right fun _ =>
            ⟨fun h _ => h, fun h => h ⟨(d.complete d.filter.value trees).value, rfl⟩⟩

theorem oneLine_message_of_prepare {d : RequestDraft} {cause : RequestError}
    (h : d.prepare.value = .error cause) : OneLine cause.message.toList := by
  rw [value_prepare] at h
  split at h
  · rw [value_roots] at h
    split at h
    · next reason hreason =>
        cases h
        obtain ⟨_, text, _, -, -, htext⟩ := Except.mapM_eq_error.mp hreason
        exact oneLine_append_toList.mpr
          ⟨by decide, Breakdown.oneLine_message_of_parse (textTree_eq_error.mp htext)⟩
    · cases h
  · cases h
    unfold RequestError.message
    simp only [oneLine_append_toList, Calendar.Instant.oneLine_stampOffset]
    decide

end RequestDraft

theorem Dataspace.oneLine_name {raw : String} {d : Dataspace} (h : ofText raw = .ok d) :
    OneLine d.name.toList ↔ OneLine (trim raw.toList) := by
  have hname : d.name.toList = lowercase (trim raw.toList) := by
    rw [Dataspace.ofText_eq_ok.mp h, normalize, String.toList_ofList]
  have hbreak {c : Char} (hpos : 0 < c.toNat) (hlow : c.toNat < 0x41) :
      c ∈ d.name.toList ↔ c ∈ trim raw.toList := by
    rw [hname]
    exact mem_lowercase hpos hlow
  rw [oneLine_iff, oneLine_iff, hbreak (by decide) (by decide), hbreak (by decide) (by decide)]

namespace ResolvedInquiry

variable {r : ResolvedInquiry} {config : Config}

/-- The record of what was asked for comes first, and it shows the context that all of them have. -/
theorem oneLine_records_compile :
    (∀ record ∈ (r.compile config).records, OneLine record.message.toList) ↔
      EachOneLine r.logContext.shown ∧
        ∀ record ∈ (r.draft config).prepare.records, OneLine record.message.toList := by
  rw [compile, List.forall_mem_append, List.forall_mem_cons, LogRecord.oneLine_message]
  refine and_iff_left_of_imp ?_
  rintro ⟨hctx, -⟩ record hrecord
  split at hrecord
  · next cause hcause =>
      rw [List.mem_singleton.mp hrecord, LogRecord.oneLine_message]
      exact List.forall_mem_cons.mpr ⟨RequestDraft.oneLine_message_of_prepare hcause, hctx⟩
  · cases hrecord

theorem shown_logContext :
    EachOneLine r.logContext.shown ↔ OneLine r.dataspace.name.toList ∧ OneLine r.requestId.toList :=
  eachOneLine_cons.trans (and_congr_right fun _ => List.forall_mem_singleton)

/-- Compiling shows four texts as they are. The name of the index ends in the dataspace, so of the
index only the text in front is left. -/
theorem oneLine_records_iff :
    (∀ record ∈ (r.compile config).records, OneLine record.message.toList) ↔
      OneLine r.dataspace.name.toList ∧ OneLine r.requestId.toList ∧
      (r.window.start.before r.window.stop = true →
        EachOneLine (RequestDraft.readTexts r.breakdowns)) ∧
      ((∃ request, (r.compile config).value = .ok request) → OneLine config.indexStem.toList) := by
  rw [oneLine_records_compile, shown_logContext, and_assoc]
  refine and_congr_right fun hname => and_congr_right fun hid => ?_
  have hctx : EachOneLine (r.draft config).logContext.shown := shown_logContext.mpr ⟨hname, hid⟩
  have hindex : OneLine (r.dataspace.indexName config.indexStem).toList ↔
      OneLine config.indexStem.toList := by
    rw [Dataspace.indexName, oneLine_append_toList, and_iff_left hname]
  rw [RequestDraft.oneLine_records_prepare hctx]
  exact and_congr_right fun _ => imp_congr_right fun _ => hindex

end ResolvedInquiry

namespace Inquiry

open Rollup.Calendar

variable {q : Inquiry} {config : Config} {now : Instant} {requestId : String}

/-- What is logged about an inquiry is one line a record exactly if its dataspace is on one line, the
name that it was given, its breakdowns as far as they are read, and, once there is a request, the text
in front of the index. What its query says, and how it is refused, never breaks a line. -/
theorem oneLine_records_of_resolve {resolved : ResolvedInquiry}
    (hresolve : q.resolve config now requestId = .ok resolved) :
    (∀ record ∈ (resolved.compile config).records, OneLine record.message.toList) ↔
      OneLine (trim (q.dataspace.getD config.dataspace).toList) ∧ OneLine requestId.toList ∧
      (resolved.window.start.before resolved.window.stop = true →
        EachOneLine (RequestDraft.readTexts (q.breakdowns.getD (config.breakdowns.map some)))) ∧
      ((∃ r, (resolved.compile config).value = .ok r) → OneLine config.indexStem.toList) := by
  obtain ⟨dataspace, _, _, _, hdataspace, -, -, -, rfl⟩ := resolve_eq_ok.mp hresolve
  have hname : OneLine dataspace.name.toList ↔
      OneLine (trim (q.dataspace.getD config.dataspace).toList) := by
    refine Dataspace.oneLine_name ?_
    rw [resolveDataspace] at hdataspace
    split at hdataspace
    · next d hd =>
        cases hdataspace
        exact hd
    · cases hdataspace
  exact ResolvedInquiry.oneLine_records_iff.trans (and_congr_left' hname)

/-- The year 1970, from here to there. -/
def firstYear : Window where
  start := (Calendar.Instant.of? 0 0 0).get (by decide)
  stop := (Calendar.Instant.of? 365 0 0).get (by decide)

/-- What is asked for about the year 1970, in two lines. -/
def askingTwice (dataspace : String) (breakdowns : List (Option String)) : Inquiry where
  dataspace := some dataspace
  start := some "1970-01-01T00:00:00Z"
  stop := some "1971-01-01T00:00:00Z"
  query := some "spring\nautumn"
  breakdowns := some breakdowns
  size := none
  examples := none
  interval := none

theorem exists_resolved_askingTwice {dataspace : String} {d : Dataspace}
    (hdataspace : Dataspace.ofText dataspace = .ok d) (breakdowns : List (Option String)) :
    ∃ resolved, (askingTwice dataspace breakdowns).resolve .default firstYear.stop "req-1" =
        .ok resolved ∧
      resolved.dataspace = d ∧ resolved.window = firstYear ∧ resolved.breakdowns = breakdowns := by
  have hstop : readTimestamp "1971-01-01T00:00:00Z" = .ok firstYear.stop := by decide +kernel
  have hstart : readTimestamp "1970-01-01T00:00:00Z" = .ok firstYear.start := by decide +kernel
  have hresolved : (askingTwice dataspace breakdowns).resolveDataspace .default = .ok d := by
    rw [resolveDataspace, askingTwice, Option.getD_some, hdataspace]
  exact ⟨_, resolve_eq_ok.mpr ⟨d, firstYear.stop, firstYear.start, .day, hresolved, hstop, hstart,
    rfl, rfl⟩, rfl, rfl, rfl⟩

/-- A query of two lines, and a breakdown of two lines that is refused: each record is one line. -/
theorem oneLine_records_askingTwice :
    ∃ resolved,
      (askingTwice "Fever\n" [some " evt/time\n", none, some "host\nname"]).resolve .default
        firstYear.stop "req-1" = .ok resolved ∧
      ∀ record ∈ (resolved.compile .default).records, OneLine record.message.toList := by
  have hdataspace : Dataspace.ofText "Fever\n" = .ok ⟨"fever", by decide, by decide⟩ := by
    decide +kernel
  obtain ⟨resolved, hresolve, -⟩ := exists_resolved_askingTwice hdataspace
    [some " evt/time\n", none, some "host\nname"]
  have htexts : RequestDraft.readTexts [some " evt/time\n", none, some "host\nname"] =
      ["evt/time"] := by decide +kernel
  refine ⟨resolved, hresolve, (oneLine_records_of_resolve hresolve).mpr
    ⟨by decide +kernel, by decide, fun _ => ?_, fun _ => by decide⟩⟩
  exact htexts ▸ List.forall_mem_singleton.mpr (by decide)

theorem exists_brokenRecord_askingTwice {dataspace : String} {d : Dataspace}
    (hdataspace : Dataspace.ofText dataspace = .ok d) {breakdowns : List (Option String)}
    (hbreak : ¬ (OneLine d.name.toList ∧ EachOneLine (RequestDraft.readTexts breakdowns))) :
    ∃ resolved, (askingTwice dataspace breakdowns).resolve .default firstYear.stop "req-1" =
        .ok resolved ∧
      ∃ record ∈ (resolved.compile .default).records, ¬ OneLine record.message.toList := by
  obtain ⟨resolved, hresolve, rfl, hwindow, rfl⟩ :=
    exists_resolved_askingTwice hdataspace breakdowns
  refine ⟨resolved, hresolve, ?_⟩
  by_contra! hall
  obtain ⟨hname, -, htexts, -⟩ := ResolvedInquiry.oneLine_records_iff.mp hall
  exact hbreak ⟨hname, htexts (by rw [hwindow]; decide)⟩

/-- A line feed in a dataspace and one in a breakdown each give a record of two lines. -/
theorem oneLine_records_fails_lineFeed :
    (∃ resolved,
      (askingTwice "a\nb" []).resolve .default firstYear.stop "req-1" = .ok resolved ∧
      ∃ record ∈ (resolved.compile .default).records, ¬ OneLine record.message.toList) ∧
    ∃ resolved,
      (askingTwice "a" [some "evt\n\x7bcount:avg\x7d"]).resolve .default firstYear.stop "req-1" =
        .ok resolved ∧
      ∃ record ∈ (resolved.compile .default).records, ¬ OneLine record.message.toList := by
  have hbroken : Dataspace.ofText "a\nb" = .ok ⟨"a\nb", by decide, by decide⟩ := by decide +kernel
  have hplain : Dataspace.ofText "a" = .ok ⟨"a", by decide, by decide⟩ := by decide +kernel
  have htexts : RequestDraft.readTexts [some "evt\n\x7bcount:avg\x7d"] =
      ["evt\n\x7bcount:avg\x7d"] := by decide +kernel
  refine ⟨exists_brokenRecord_askingTwice hbroken fun h => absurd h.1 (by decide),
    exists_brokenRecord_askingTwice hplain fun h => ?_⟩
  rw [htexts] at h
  exact absurd (h.2 _ List.mem_cons_self) (by decide)

end Inquiry

end Rollup
