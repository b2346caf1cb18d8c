import Rollup.Proofs.Inquiry.Stages

/-!
# Inquiries that are compiled

An inquiry is resolved when its dataspace, its window and its interval are; the
rest only fills in what is left out. What is resolved is compiled if its window
is not empty and its breakdowns have trees. So an inquiry with nothing wrong in
it gives a request, whatever its query says.
-/

namespace Rollup.Inquiry

open Rollup.Calendar

variable {q : Inquiry} {config : Config} {now : Instant} {requestId : String}

theorem resolve_eq_ok {resolved : ResolvedInquiry} :
    q.resolve config now requestId = .ok resolved ↔
      ∃ dataspace stop start interval, q.resolveDataspace config = .ok dataspace ∧
        q.resolveStop now = .ok stop ∧ q.resolveStart stop = .ok start ∧
        q.resolveInterval config = .ok interval ∧
        resolved = ⟨requestId, dataspace, ⟨start, stop⟩, .parse (q.query.getD ""),
          q.breakdowns.getD (config.breakdowns.map some), q.size.getD config.resultCeiling,
          q.examples.getD config.exampleCeiling, interval⟩ := by
  simp only [resolve, Except.bind_eq_ok, pure, Except.pure, Except.ok.injEq, exists_and_left,
    eq_comm (b := resolved)]

theorem Sound.exists_interval (h : q.Sound config now) :
    ∃ interval, q.resolveInterval config = .ok interval := by
  rw [resolveInterval]
  split
  · next given hgiven =>
      obtain ⟨interval, hinterval⟩ := h.interval given hgiven
      exact ⟨interval, by simp only [readInterval, hinterval]⟩
  · exact ⟨_, rfl⟩

theorem Sound.exists_trees (h : q.Sound config now) (options : Aggregation.Options) :
    ∃ trees, (q.texts config).mapM (RequestDraft.textTree options) = .ok trees := by
  cases hall : (q.texts config).mapM (RequestDraft.textTree options) with
  | ok trees => exact ⟨trees, rfl⟩
  | error cause =>
      obtain ⟨before, text, after, htexts, -, herror⟩ := Except.mapM_eq_error.mp hall
      obtain ⟨b, hb⟩ := h.breakdowns text (htexts ▸ List.mem_append_right _ List.mem_cons_self)
      cases hb.symm.trans (RequestDraft.textTree_eq_error.mp herror)

/-- A window and trees are all that compiling asks for. -/
theorem value_compile {resolved : ResolvedInquiry} {trees : List Aggregation}
    (hwindow : resolved.window.start.before resolved.window.stop = true)
    (htrees : (resolved.breakdowns.filterMap RequestDraft.entryText?).mapM
      (RequestDraft.textTree (resolved.draft config).options) = .ok trees) :
    (resolved.compile config).value =
      .ok ((resolved.draft config).complete (resolved.draft config).filter.value
        (trees.foldl RequestDraft.keepNew [])).value := by
  have hroots : (RequestDraft.roots (resolved.draft config).options
      (resolved.draft config).logContext [] resolved.breakdowns).value =
        .ok (trees.foldl RequestDraft.keepNew []) := by
    rw [RequestDraft.value_roots, htrees]
  exact congrArg Logged.value (RequestDraft.prepare_of_roots hwindow hroots)

/-- An inquiry with nothing wrong in it is compiled, whatever its query says. -/
theorem Sound.exists_compiled (h : q.Sound config now) (requestId : String) :
    ∃ resolved r, q.resolve config now requestId = .ok resolved ∧
      (resolved.compile config).value = .ok r := by
  obtain ⟨dataspace, hdataspace⟩ := h.dataspace
  obtain ⟨w, hasked, hbefore⟩ := h.window
  obtain ⟨interval, hinterval⟩ := h.exists_interval
  obtain ⟨hstop, hstart⟩ := asks_iff.mp hasked
  have hresolved : q.resolveDataspace config = .ok dataspace := by
    rw [resolveDataspace, hdataspace]
  have hresolve : q.resolve config now requestId = .ok _ := resolve_eq_ok.mpr
    ⟨dataspace, w.stop, w.start, interval, hresolved, hstop, hstart, hinterval, rfl⟩
  obtain ⟨trees, htrees⟩ := h.exists_trees ⟨interval, some (q.size.getD config.resultCeiling)⟩
  exact ⟨_, _, hresolve, value_compile hbefore htrees⟩

end Rollup.Inquiry
