import Rollup.Proofs.Inquiry.Compiled
import Rollup.Proofs.Inquiry.FirstFault

/-!
# Inquiries that give no start

An inquiry without a start asks for the month up to its end. That month ends on
the same time of day, in the month before, and it is never empty. So such an
inquiry is never refused for its window: what it gets wrong is found at one of
the other stages. The one other thing that can happen is that there is no time
thirty days before the end, and that takes a clock in the first days there are.
-/

namespace Rollup.Inquiry

open Calendar

variable {text : String} {config : Config} {now : Instant} {q : Inquiry} {requestId : String}
  {fault : Fault}

/-- The window of an inquiry without a start is not empty. -/
theorem Asks.before {w : Window} (h : q.Asks now w) (hstart : q.start = none) :
    w.start.before w.stop = true := Window.before_of_monthUpTo? (h.start_default hstart)

theorem asks_of_resolve {resolved : ResolvedInquiry}
    (h : q.resolve config now requestId = .ok resolved) : q.Asks now resolved.window := by
  obtain ⟨_, _, _, _, -, hstop, hstart, -, rfl⟩ := resolve_eq_ok.mp h
  exact asks_iff.mpr ⟨hstop, hstart⟩

/-- An inquiry that is read fails at a stage, or it gives no start and has no month up to its end. -/
theorem fault_of_request (hread : ofText text = .ok q)
    (h : request text config now requestId = .error fault) :
    (∃ stage, FailsWith text config now stage fault) ∨
      ∃ stop, q.resolveStop now = .ok stop ∧ Window.monthUpTo? stop = none ∧
        fault = .noWindowUpTo stop := by
  rw [request_of_ofText hread, resolve] at h
  simp only [bind_assoc, pure_bind, compile_eq] at h
  rcases Except.bind_eq_error.mp h with h | ⟨dataspace, -, h⟩
  · exact Or.inl ⟨.dataspace, (resolveDataspace_eq_error hread).mp h⟩
  rcases Except.bind_eq_error.mp h with h | ⟨stop, hstop, h⟩
  · exact Or.inl ⟨.stop, (resolveStop_eq_error hread).mp h⟩
  rcases Except.bind_eq_error.mp h with h | ⟨start, hstart, h⟩
  · rcases (resolveStart_eq_error_iff hread).mp h with hfails | ⟨-, hmonth, hfault⟩
    · exact Or.inl ⟨.start, hfails⟩
    · exact Or.inr ⟨stop, hstop, hmonth, hfault⟩
  rcases Except.bind_eq_error.mp h with h | ⟨interval, -, h⟩
  · exact Or.inl ⟨.interval, (resolveInterval_eq_error hread).mp h⟩
  have hasked : q.Asks now ⟨start, stop⟩ := asks_iff.mpr ⟨hstop, hstart⟩
  rcases Except.bind_eq_error.mp h with h | ⟨_, -, h⟩
  · exact Or.inl ⟨.window, (checkWindow_eq_error hread hasked).mp h⟩
  rcases Except.bind_eq_error.mp h with h | ⟨trees, -, h⟩
  · exact Or.inl ⟨.breakdowns, (textTrees_eq_error hread).mp h⟩
  · cases h

/-- Without a start, no stage fails for the window. -/
theorem FailsWith.ne_invalidTimeRange {stage : Stage} (h : FailsWith text config now stage fault)
    (hread : ofText text = .ok q) (hstart : q.start = none) (start stop : Instant) :
    fault ≠ .refused (.invalidTimeRange start stop) := by
  obtain ⟨cause, rfl, hfails⟩ := h
  rintro ⟨⟩
  cases hfails with
  | window hread' hasked hlate =>
      cases hread.symm.trans hread'
      cases hlate.symm.trans (hasked.before hstart)

/-- The month up to an end starts at the same time of day in the month before, on the same day or on
the last of a shorter month, 28 to 31 whole days earlier. An inquiry that gives no start gets this
window, and whatever its end, it is not refused for it. -/
theorem request_month_up_to :
    (∀ stop : Instant, firstDay + 31 ≤ stop.day →
      ∃ start, Window.monthUpTo? stop = some ⟨start, stop⟩ ∧ start.MonthEarlier stop) ∧
    ∀ (text : String) (config : Config) (now : Instant) (requestId : String) (q : Inquiry),
      ofText text = .ok q → q.start = none →
      (∀ start stop, request text config now requestId ≠
        .error (.refused (.invalidTimeRange start stop))) ∧
      ((q.stop = none → firstDay + 31 ≤ now.day) →
        (∀ stop, request text config now requestId ≠ .error (.noWindowUpTo stop)) ∧
        ∀ resolved, q.resolve config now requestId = .ok resolved →
          resolved.window.start.MonthEarlier resolved.window.stop) := by
  refine ⟨fun stop => Window.exists_monthEarlier, ?_⟩
  intro text config now requestId q hread hstart
  refine ⟨fun start stop h => ?_, fun hnow => ⟨fun stop h => ?_, fun resolved hresolve => ?_⟩⟩
  · rcases fault_of_request hread h with ⟨_, hfails⟩ | ⟨_, -, -, hfault⟩
    · exact hfails.ne_invalidTimeRange hread hstart start stop rfl
    · cases hfault
  · rcases fault_of_request hread h with ⟨_, _, hfault, -⟩ | ⟨_, hstop, hmonth, -⟩
    · cases hfault
    · obtain ⟨_, hsome, -⟩ :=
        Window.exists_monthEarlier (le_day_of_resolveStop (Int.le_refl 31) hnow hstop)
      cases hmonth.symm.trans hsome
  · have hasked := asks_of_resolve hresolve
    have hstop := (asks_iff.mp hasked).1
    obtain ⟨start, hsome, hmonth⟩ :=
      Window.exists_monthEarlier (le_day_of_resolveStop (Int.le_refl 31) hnow hstop)
    have hfirst : resolved.window.start = start := congrArg Window.start
      (Option.some.inj ((hasked.start_default hstart).symm.trans hsome))
    rwa [hfirst]

/-- The last of March, in a leap second, up to which there is a short month in a leap year. -/
def lastOfMarch : Instant := (Instant.of? 16891 86399 1500000000).get (by decide)

/-- An inquiry that gives no start. -/
def upToLastOfMarch : Inquiry := { empty with stop := some "2016-03-31T23:59:60.5Z" }

def upToLastOfMarchText : String := "\x7b\"end\":\"2016-03-31T23:59:60.5Z\"\x7d"

theorem request_month_up_to_lastOfMarch :
    (∃ start, Window.monthUpTo? lastOfMarch = some ⟨start, lastOfMarch⟩ ∧
      start.MonthEarlier lastOfMarch ∧ start.date = ⟨2016, 2, 29⟩) ∧
    (∀ start stop, request upToLastOfMarchText .default lastOfMarch "req-1" ≠
      .error (.refused (.invalidTimeRange start stop))) ∧
    (∀ stop, request upToLastOfMarchText .default lastOfMarch "req-1" ≠
      .error (.noWindowUpTo stop)) ∧
    ∃ resolved, upToLastOfMarch.resolve .default lastOfMarch "req-1" = .ok resolved ∧
      resolved.window.start.MonthEarlier resolved.window.stop := by
  have hread : ofText upToLastOfMarchText = .ok upToLastOfMarch := by decide +kernel
  obtain ⟨start, hmonth, hearlier⟩ := request_month_up_to.1 lastOfMarch (by decide)
  have hfound : (Window.monthUpTo? lastOfMarch).map (fun w => w.start.date) =
      some ⟨2016, 2, 29⟩ := by decide +kernel
  rw [hmonth] at hfound
  have hresolve : (upToLastOfMarch.resolve .default lastOfMarch "req-1").toOption.isSome := by
    decide +kernel
  obtain ⟨hrange, hdefault⟩ :=
    request_month_up_to.2 _ .default lastOfMarch "req-1" _ hread rfl
  obtain ⟨hpast, hwindow⟩ := hdefault nofun
  refine ⟨⟨start, hmonth, hearlier, Option.some.inj hfound⟩, hrange, hpast, ?_⟩
  cases hresolved : upToLastOfMarch.resolve .default lastOfMarch "req-1" with
  | ok resolved => exact ⟨resolved, rfl, hwindow resolved hresolved⟩
  | error fault => rw [hresolved] at hresolve; cases hresolve

end Rollup.Inquiry
