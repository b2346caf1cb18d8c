import Rollup.Proofs.Inquiry.Stages

/-!
# Which fault an inquiry gets

The error of a text is that of the first stage that fails on it, and a text on
which no stage fails has a request. The compilation is a chain of steps, so one
lemma about a step and the rest carries the account through the chain: where no
earlier stage fails, a step that fails settles the error, and a step that does
not leaves one stage more that is known not to fail. The ranks of the stages
count them, so that the end of the chain is where all seven are known.
-/

namespace Rollup.Inquiry

open Rollup.Calendar

/-- Compiles the text of an inquiry under a configuration: it is read, resolved and compiled. -/
def request (text : String) (config : Config) (now : Instant) (requestId : String) :
    Except Fault SearchRequest := do
  let q ← (ofText text).mapError fun cause => .refused (.malformedRequest cause)
  let resolved ← q.resolve config now requestId
  (resolved.compile config).value.mapError .refused

theorem request_of_ofText {text : String} {q : Inquiry} (hread : ofText text = .ok q)
    (config : Config) (now : Instant) (requestId : String) :
    request text config now requestId = (q.resolve config now requestId >>= fun resolved =>
      (resolved.compile config).value.mapError .refused) := by
  simp only [request, hread, Except.mapError, bind, Except.bind]

theorem compileInquiry_eq (text : String) (env : Config.Environment) (now : Instant)
    (requestId : String) :
    compileInquiry text env now requestId =
      (request text (Config.ofEnvironment env).value now requestId).map fun r =>
        .ofMembers [("index", .string r.index), ("body", r.toJson)] := by
  cases hread : ofText text with
  | error cause => rw [compileInquiry, request, hread]; rfl
  | ok q =>
      rw [request_of_ofText hread, compileInquiry, hread]
      simp only []
      generalize (Config.ofEnvironment env).value = config
      cases q.resolve config now requestId with
      | error fault => rfl
      | ok resolved =>
          simp only [bind, Except.bind]
          cases (resolved.compile config).value <;> rfl

/-! ## One stage after the other -/

variable {text : String} {config : Config} {now : Instant} {q : Inquiry}

/-- None of the first stages fails. -/
def Clear (text : String) (config : Config) (now : Instant) (stages : Nat) : Prop :=
  ∀ stage cause, stage.rank < stages → ¬ Fails text config now stage cause

/-- A result is what the stages say: a request if none fails, the error of the first that does. -/
def Accounted (text : String) (config : Config) (now : Instant) :
    Except Fault SearchRequest → Prop
  | .ok _ => ∀ stage cause, ¬ Fails text config now stage cause
  | .error fault =>
      ∃ stage, FailsWith text config now stage fault ∧ Clear text config now stage.rank

/-- A step that fails as its stage does, where no earlier stage fails, leaves the rest to what
follows it. -/
theorem accounted_bind {α : Type} (stage : Stage) {step : Except Fault α}
    {rest : α → Except Fault SearchRequest} (hclear : Clear text config now stage.rank)
    (hstep : ∀ fault, step = .error fault ↔ FailsWith text config now stage fault)
    (hrest : ∀ result, step = .ok result → Clear text config now (stage.rank + 1) →
      Accounted text config now (rest result)) :
    Accounted text config now (step >>= rest) := by
  cases step with
  | error fault => exact ⟨stage, (hstep fault).mp rfl, hclear⟩
  | ok result =>
      refine hrest result rfl fun earlier cause hearlier hfails => ?_
      -- This stage is the only one that is not known to be clear yet.
      rcases Nat.lt_or_eq_of_le (Nat.le_of_lt_succ hearlier) with hlt | heq
      · exact hclear earlier cause hlt hfails
      · cases Stage.eq_of_rank_eq heq
        cases (hstep _).mpr ⟨cause, rfl, hfails⟩

theorem compile_eq (r : ResolvedInquiry) (config : Config) :
    (r.compile config).value.mapError Fault.refused = (do
      checkWindow r.window
      let trees ← textTrees (r.draft config).options
        (r.breakdowns.filterMap RequestDraft.entryText?)
      return ((r.draft config).complete (r.draft config).filter.value
        (trees.foldl RequestDraft.keepNew [])).value) := by
  have hvalue : (r.compile config).value = (r.draft config).prepare.value := rfl
  have hwindow : (r.draft config).window = r.window := rfl
  have hbreakdowns : (r.draft config).breakdowns = r.breakdowns := rfl
  rw [hvalue, RequestDraft.value_prepare, RequestDraft.value_roots, checkWindow, textTrees, hwindow,
    hbreakdowns]
  split
  · cases (r.breakdowns.filterMap RequestDraft.entryText?).mapM
      (RequestDraft.textTree (r.draft config).options) <;> rfl
  · rfl

/-- Every text is accounted for. -/
theorem accounted_request (hnow : firstDay + 30 ≤ now.day) (requestId : String) :
    Accounted text config now (request text config now requestId) := by
  rw [request]
  refine accounted_bind .reading (fun _ _ h => absurd h (Nat.not_lt_zero _))
    (fun _ => ofText_eq_error) fun q hq hclear => ?_
  have hread : ofText text = .ok q := Except.mapError_eq_ok.mp hq
  rw [resolve]
  simp only [bind_assoc, pure_bind]
  refine accounted_bind .dataspace hclear (fun _ => resolveDataspace_eq_error hread)
    fun dataspace _ hclear => ?_
  refine accounted_bind .stop hclear (fun _ => resolveStop_eq_error hread)
    fun stop hstop hclear => ?_
  have hmonth := le_day_of_resolveStop (by decide) (fun _ => hnow) hstop
  refine accounted_bind .start hclear (fun _ => resolveStart_eq_error hread hmonth)
    fun start hstart hclear => ?_
  refine accounted_bind .interval hclear (fun _ => resolveInterval_eq_error hread)
    fun interval _ hclear => ?_
  -- All that was resolved so far is needed once more: the window that is compared is the one asked for.
  have hasked : q.Asks now ⟨start, stop⟩ := asks_iff.mpr ⟨hstop, hstart⟩
  rw [compile_eq]
  refine accounted_bind .window hclear (fun _ => checkWindow_eq_error hread hasked)
    fun _ _ hclear => ?_
  refine accounted_bind .breakdowns hclear (fun _ => textTrees_eq_error hread)
    fun trees _ hclear => ?_
  exact fun stage cause => hclear stage cause (by cases stage <;> decide)

/-! ## The first stage that fails -/

theorem Sound.not_fails (hread : ofText text = .ok q) (h : q.Sound config now) (stage : Stage)
    (cause : RequestError) : ¬ Fails text config now stage cause := by
  intro hfails
  cases hfails with
  | reading hunread => cases hread.symm.trans hunread
  | dataspace hread' hinvalid =>
      cases hread.symm.trans hread'
      obtain ⟨d, hd⟩ := h.dataspace
      cases hinvalid.symm.trans hd
  | stop hread' hstop hinvalid =>
      cases hread.symm.trans hread'
      obtain ⟨t, ht⟩ := h.stop _ hstop
      cases hinvalid.symm.trans ht
  | start hread' hstart hinvalid =>
      cases hread.symm.trans hread'
      obtain ⟨t, ht⟩ := h.start _ hstart
      cases hinvalid.symm.trans ht
  | interval hread' hinterval hinvalid =>
      cases hread.symm.trans hread'
      obtain ⟨i, hi⟩ := h.interval _ hinterval
      cases hinvalid.symm.trans hi
  | window hread' hasked hlate =>
      cases hread.symm.trans hread'
      obtain ⟨w, hw, hbefore⟩ := h.window
      cases hasked.unique hw
      cases hlate.symm.trans hbefore
  | breakdowns hread' htexts _ hinvalid =>
      cases hread.symm.trans hread'
      obtain ⟨b, hb⟩ := h.breakdowns _ (htexts ▸ List.mem_append_right _ List.mem_cons_self)
      cases hinvalid.symm.trans hb

theorem sound_of_not_fails (hread : ofText text = .ok q) (hnow : firstDay + 30 ≤ now.day)
    (h : ∀ stage cause, ¬ Fails text config now stage cause) : q.Sound config now where
  dataspace := by
    cases hd : Dataspace.ofText (q.dataspace.getD config.dataspace) with
    | ok d => exact ⟨d, rfl⟩
    | error cause => exact absurd (.dataspace hread hd) (h _ _)
  stop given hstop := by
    cases ht : Timestamp.parse (Text.trim given.toList) with
    | ok t => exact ⟨t, rfl⟩
    | error cause => exact absurd (.stop hread hstop ht) (h _ _)
  start given hstart := by
    cases ht : Timestamp.parse (Text.trim given.toList) with
    | ok t => exact ⟨t, rfl⟩
    | error cause => exact absurd (.start hread hstart ht) (h _ _)
  interval given hinterval := by
    cases hi : Interval.ofText? given with
    | some i => exact ⟨i, rfl⟩
    | none => exact absurd (.interval hread hinterval hi) (h _ _)
  window := by
    cases hstop : q.resolveStop now with
    | error fault =>
        obtain ⟨cause, -, hfails⟩ := (resolveStop_eq_error hread).mp hstop
        exact absurd hfails (h _ _)
    | ok stop =>
        have hmonth := le_day_of_resolveStop (by decide) (fun _ => hnow) hstop
        cases hstart : q.resolveStart stop with
        | error fault =>
            obtain ⟨cause, -, hfails⟩ := (resolveStart_eq_error hread hmonth).mp hstart
            exact absurd hfails (h _ _)
        | ok start =>
            have hasked : q.Asks now ⟨start, stop⟩ := asks_iff.mpr ⟨hstop, hstart⟩
            cases hlate : start.before stop with
            | true => exact ⟨_, hasked, hlate⟩
            | false => exact absurd (.window hread hasked hlate) (h _ _)
  breakdowns := by
    cases hbs : (q.texts config).mapM Breakdown.parse with
    | ok bs => exact Except.exists_of_mapM_eq_ok hbs
    | error cause =>
        obtain ⟨_, _, _, htexts, hbefore, hinvalid⟩ := Except.mapM_eq_error.mp hbs
        exact absurd (.breakdowns hread htexts hbefore hinvalid) (h _ _)

/-- A stage fails with one error. -/
theorem Fails.unique {stage : Stage} {cause other : RequestError}
    (h : Fails text config now stage cause) (hother : Fails text config now stage other) :
    cause = other := by
  cases h with
  | reading hunread =>
      cases hother with
      | reading hunread' => cases hunread.symm.trans hunread'; rfl
  | dataspace hread hinvalid =>
      cases hother with
      | dataspace hread' hinvalid' =>
          cases hread.symm.trans hread'
          cases hinvalid.symm.trans hinvalid'
          rfl
  | stop hread hstop hinvalid =>
      cases hother with
      | stop hread' hstop' hinvalid' =>
          cases hread.symm.trans hread'
          cases hstop.symm.trans hstop'
          cases hinvalid.symm.trans hinvalid'
          rfl
  | start hread hstart hinvalid =>
      cases hother with
      | start hread' hstart' hinvalid' =>
          cases hread.symm.trans hread'
          cases hstart.symm.trans hstart'
          cases hinvalid.symm.trans hinvalid'
          rfl
  | interval hread hinterval hinvalid =>
      cases hother with
      | interval hread' hinterval' hinvalid' =>
          cases hread.symm.trans hread'
          cases hinterval.symm.trans hinterval'
          rfl
  | window hread hasked hlate =>
      cases hother with
      | window hread' hasked' hlate' =>
          cases hread.symm.trans hread'
          cases hasked.unique hasked'
          rfl
  | breakdowns hread htexts hbefore hinvalid =>
      cases hother with
      | breakdowns hread' htexts' hbefore' hinvalid' =>
          cases hread.symm.trans hread'
          have hfirst := Except.mapM_eq_error.mpr ⟨_, _, _, htexts, hbefore, hinvalid⟩
          have hfirst' := Except.mapM_eq_error.mpr ⟨_, _, _, htexts', hbefore', hinvalid'⟩
          cases hfirst.symm.trans hfirst'
          rfl

/-- The first stage that fails is one stage, with one error. -/
theorem FailsWith.unique {stage other : Stage} {fault fault' : Fault}
    (h : FailsWith text config now stage fault) (hclear : Clear text config now stage.rank)
    (hother : FailsWith text config now other fault') (hclear' : Clear text config now other.rank) :
    fault = fault' := by
  obtain ⟨cause, rfl, hfails⟩ := h
  obtain ⟨cause', rfl, hfails'⟩ := hother
  rcases Nat.lt_trichotomy stage.rank other.rank with hlt | heq | hlt
  · exact absurd hfails (hclear' stage cause hlt)
  · cases Stage.eq_of_rank_eq heq
    rw [hfails.unique hfails']
  · exact absurd hfails' (hclear other cause' hlt)

theorem exists_request_iff (hnow : firstDay + 30 ≤ now.day) (requestId : String) :
    (∃ r, request text config now requestId = .ok r) ↔
      ∃ q, ofText text = .ok q ∧ q.Sound config now := by
  have haccounted : Accounted text config now (request text config now requestId) :=
    accounted_request hnow requestId
  constructor
  · rintro ⟨r, hr⟩
    rw [hr] at haccounted
    cases hread : ofText text with
    | error cause => exact absurd (.reading hread) (haccounted _ _)
    | ok q => exact ⟨q, rfl, sound_of_not_fails hread hnow haccounted⟩
  · rintro ⟨q, hread, hsound⟩
    cases hrequest : request text config now requestId with
    | ok r => exact ⟨r, rfl⟩
    | error fault =>
        rw [hrequest] at haccounted
        obtain ⟨stage, ⟨cause, -, hfails⟩, -⟩ := haccounted
        exact absurd hfails (hsound.not_fails hread stage cause)

theorem request_eq_error_iff (hnow : firstDay + 30 ≤ now.day) (requestId : String) (fault : Fault) :
    request text config now requestId = .error fault ↔
      ∃ stage, FailsWith text config now stage fault ∧ Clear text config now stage.rank := by
  have haccounted : Accounted text config now (request text config now requestId) :=
    accounted_request hnow requestId
  constructor
  · intro herror
    rw [herror] at haccounted
    exact haccounted
  · rintro ⟨stage, hfails, hclear⟩
    cases hrequest : request text config now requestId with
    | ok r =>
        rw [hrequest] at haccounted
        obtain ⟨cause, -, hfailure⟩ := hfails
        exact absurd hfailure (haccounted stage cause)
    | error fault' =>
        rw [hrequest] at haccounted
        obtain ⟨other, hfails', hclear'⟩ := haccounted
        rw [hfails.unique hclear hfails' hclear']

/-- Under a clock with thirty days before it, a text gets a request exactly if it is read and nothing
is wrong in it, and any other gets the error of the first stage that fails. No breakdown that is read
is without a tree. -/
theorem request_iff_stages (text : String) (config : Config) (now : Instant)
    (requestId : String) (hnow : firstDay + 30 ≤ now.day) :
    ((∃ r, request text config now requestId = .ok r) ↔
      ∃ q, ofText text = .ok q ∧ q.Sound config now) ∧
    (∀ fault, request text config now requestId = .error fault ↔
      ∃ stage, FailsWith text config now stage fault ∧ Clear text config now stage.rank) ∧
    ∀ breakdown b, Breakdown.parse breakdown = .ok b →
      ∀ options ctx, ∃ built, Aggregation.build options ctx b = .ok built := by
  refine ⟨exists_request_iff hnow requestId, request_eq_error_iff hnow requestId, ?_⟩
  intro breakdown b hparse options ctx
  obtain ⟨t, hbuilt⟩ := Aggregation.exists_built (Breakdown.parse_fields_ne_nil hparse) options
  obtain ⟨records, hbuild⟩ := hbuilt ctx
  exact ⟨_, hbuild⟩

/-- A day the wrong way round. -/
def backwards : Window where
  start := RequestDraft.spellingEachOther.window.stop
  stop := RequestDraft.spellingEachOther.window.start

/-- An inquiry that stops before it starts, and asks for a breakdown whose report does not end. -/
def late : Inquiry :=
  { empty with
    start := some "1970-01-02T00:00:00Z"
    stop := some "1970-01-01T02:00:00+02:00"
    breakdowns := some [some "tag", none, some "tag", some "host \x7bcount"] }

def lateText : String :=
  "\x7b\"start\":\"1970-01-02T00:00:00Z\",\"end\":\"1970-01-01T02:00:00+02:00\"," ++
    "\"breakdown\":[\"tag\",null,\"tag\",\"host \x7bcount\"]\x7d"

theorem request_lateText :
    firstDay + 30 ≤ backwards.start.day ∧
      Fails lateText .default backwards.start .breakdowns
        (.breakdown (.malformed "host \x7bcount")) ∧
      request lateText .default backwards.start "req-1" =
        .error (.refused (.invalidTimeRange backwards.start backwards.stop)) := by
  have hnow : firstDay + 30 ≤ backwards.start.day := by decide
  have hread : ofText lateText = .ok late := by decide +kernel
  have hdataspace : Dataspace.ofText (late.dataspace.getD Config.default.dataspace) =
      .ok ⟨"default", by decide, by decide⟩ := by decide +kernel
  have hstop : Timestamp.parse (Text.trim "1970-01-01T02:00:00+02:00".toList) =
      .ok backwards.stop := by decide +kernel
  have hstart : Timestamp.parse (Text.trim "1970-01-02T00:00:00Z".toList) =
      .ok backwards.start := by decide +kernel
  have hasked : late.Asks backwards.start backwards := by
    refine ⟨?_, nofun, ?_, nofun⟩
    · rintro given ⟨⟩
      exact hstop
    · rintro given ⟨⟩
      exact hstart
  have htexts : late.texts .default = ["tag", "tag"] ++ "host \x7bcount" :: [] := by decide +kernel
  have htag : Breakdown.parse "tag" = .ok ⟨["tag"], none⟩ := by decide +kernel
  have hmalformed : Breakdown.parse "host \x7bcount" = .error (.malformed "host \x7bcount") := by
    decide +kernel
  refine ⟨hnow, .breakdowns hread htexts (by simp [htag]) hmalformed, ?_⟩
  refine ((request_iff_stages lateText .default backwards.start "req-1" hnow).2.1 _).mpr
    ⟨.window, ⟨_, rfl, .window hread hasked (by decide)⟩, ?_⟩
  intro earlier cause hearlier hfails
  cases hfails with
  | reading hunread => cases hread.symm.trans hunread
  | dataspace hread' hinvalid =>
      cases hread.symm.trans hread'
      cases hdataspace.symm.trans hinvalid
  | stop hread' hgiven hinvalid =>
      cases hread.symm.trans hread'
      cases hgiven
      cases hstop.symm.trans hinvalid
  | start hread' hgiven hinvalid =>
      cases hread.symm.trans hread'
      cases hgiven
      cases hstart.symm.trans hinvalid
  | interval hread' hgiven hinvalid =>
      cases hread.symm.trans hread'
      cases hgiven
  | window | breakdowns => exact absurd hearlier (by decide)

end Rollup.Inquiry
