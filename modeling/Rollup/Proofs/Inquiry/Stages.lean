import Rollup.Inquiry
import Rollup.Proofs.Calendar.Month
import Rollup.Proofs.Sifting

/-!
# The stages of an inquiry

Compiling a text goes through seven stages, and each can fail. `Fails` says of
each stage by itself when it fails and with which error. Whether another stage
fails has no part in that, but there is a window to compare only where both its
ends can be read. Each step of the compilation fails as its stage does.

Two things need an argument there. A start that is left out is found by going
back from the end, and there is always room for that: an end that is read is
late enough, so only the clock has to be. And every breakdown that is read has a
tree.
-/

namespace Rollup.Inquiry

open Rollup.Calendar

/-- The window that an inquiry asks for: what it gives, or else up to now and for a month. -/
structure Asks (q : Inquiry) (now : Instant) (w : Window) : Prop where
  stop_given : ∀ given ∈ q.stop, Timestamp.parse (Text.trim given.toList) = .ok w.stop
  stop_default : q.stop = none → w.stop = now
  start_given : ∀ given ∈ q.start, Timestamp.parse (Text.trim given.toList) = .ok w.start
  start_default : q.start = none → Window.monthUpTo? w.stop = some w

/-- The texts of the breakdowns that an inquiry asks for. -/
def texts (q : Inquiry) (config : Config) : List String :=
  (q.breakdowns.getD (config.breakdowns.map some)).filterMap RequestDraft.entryText?

/-- An inquiry with nothing wrong in it. -/
structure Sound (q : Inquiry) (config : Config) (now : Instant) : Prop where
  dataspace : ∃ d, Dataspace.ofText (q.dataspace.getD config.dataspace) = .ok d
  stop : ∀ given ∈ q.stop, ∃ t, Timestamp.parse (Text.trim given.toList) = .ok t
  start : ∀ given ∈ q.start, ∃ t, Timestamp.parse (Text.trim given.toList) = .ok t
  interval : ∀ given ∈ q.interval, ∃ i, Interval.ofText? given = some i
  window : ∃ w, q.Asks now w ∧ w.start.before w.stop = true
  breakdowns : ∀ text ∈ q.texts config, ∃ b, Breakdown.parse text = .ok b

/-- The stages of compiling a text. -/
inductive Stage
  | reading
  | dataspace
  | stop
  | start
  | interval
  | window
  | breakdowns
deriving DecidableEq

/-- Where a stage comes in the order of the stages. -/
def Stage.rank : Stage → Nat
  | reading => 0
  | dataspace => 1
  | stop => 2
  | start => 3
  | interval => 4
  | window => 5
  | breakdowns => 6

theorem Stage.eq_of_rank_eq {stage other : Stage} (h : stage.rank = other.rank) :
    stage = other := by
  cases stage <;> cases other <;> first | rfl | cases h

/-- A stage fails on a text with an error. -/
inductive Fails (text : String) (config : Config) (now : Instant) : Stage → RequestError → Prop
  | reading {cause : Json.ReadError} (unread : ofText text = .error cause) :
      Fails text config now .reading (.malformedRequest cause)
  | dataspace {q : Inquiry} {cause : EventError} (read : ofText text = .ok q)
      (invalid : Dataspace.ofText (q.dataspace.getD config.dataspace) = .error cause) :
      Fails text config now .dataspace (.event cause)
  | stop {q : Inquiry} {given : String} {cause : TimestampError} (read : ofText text = .ok q)
      (stop_eq : q.stop = some given)
      (invalid : Timestamp.parse (Text.trim given.toList) = .error cause) :
      Fails text config now .stop (.invalidTimestamp given cause.message)
  | start {q : Inquiry} {given : String} {cause : TimestampError} (read : ofText text = .ok q)
      (start_eq : q.start = some given)
      (invalid : Timestamp.parse (Text.trim given.toList) = .error cause) :
      Fails text config now .start (.invalidTimestamp given cause.message)
  | interval {q : Inquiry} {given : String} (read : ofText text = .ok q)
      (interval_eq : q.interval = some given) (invalid : Interval.ofText? given = none) :
      Fails text config now .interval (.invalidInterval given)
  | window {q : Inquiry} {w : Window} (read : ofText text = .ok q) (asked : q.Asks now w)
      (late : w.start.before w.stop = false) :
      Fails text config now .window (.invalidTimeRange w.start w.stop)
  /-- The first breakdown that cannot be read decides, whatever becomes of those around it. -/
  | breakdowns {q : Inquiry} {before after : List String} {breakdown : String}
      {cause : BreakdownError} (read : ofText text = .ok q)
      (texts_eq : q.texts config = before ++ breakdown :: after)
      (before_valid : ∀ earlier ∈ before, ∃ b, Breakdown.parse earlier = .ok b)
      (invalid : Breakdown.parse breakdown = .error cause) :
      Fails text config now .breakdowns (.breakdown cause)

/-! ## Windows -/

theorem readTimestamp_eq_ok {given : String} {t : Instant} :
    readTimestamp given = .ok t ↔ Timestamp.parse (Text.trim given.toList) = .ok t := by
  rw [readTimestamp]
  cases Timestamp.parse (Text.trim given.toList) with
  | ok t' => simp only [Except.ok.injEq]
  | error cause => simp only [reduceCtorEq]

theorem readTimestamp_eq_error {given : String} {fault : Fault} :
    readTimestamp given = .error fault ↔
      ∃ cause, Timestamp.parse (Text.trim given.toList) = .error cause ∧
        fault = .refused (.invalidTimestamp given cause.message) := by
  rw [readTimestamp]
  cases Timestamp.parse (Text.trim given.toList) with
  | ok t => simp
  | error cause => simp [eq_comm]

variable {text : String} {config : Config} {now : Instant} {q : Inquiry}

/-- The window that is asked for is the one that is resolved. -/
theorem asks_iff {w : Window} :
    q.Asks now w ↔ q.resolveStop now = .ok w.stop ∧ q.resolveStart w.stop = .ok w.start := by
  obtain ⟨start, stop⟩ := w
  have hstop : q.resolveStop now = .ok stop ↔
      (∀ given ∈ q.stop, Timestamp.parse (Text.trim given.toList) = .ok stop) ∧
        (q.stop = none → stop = now) := by
    rw [resolveStop]
    cases q.stop with
    | none => simp [eq_comm]
    | some given => simp [readTimestamp_eq_ok]
  have hstart : q.resolveStart stop = .ok start ↔
      (∀ given ∈ q.start, Timestamp.parse (Text.trim given.toList) = .ok start) ∧
        (q.start = none → Window.monthUpTo? stop = some ⟨start, stop⟩) := by
    rw [resolveStart]
    cases q.start with
    | none =>
        cases hmonth : Window.monthUpTo? stop with
        | none => simp
        | some month =>
            have hend := Window.stop_of_monthUpTo? hmonth
            obtain ⟨first, last⟩ := month
            cases hend
            simp
    | some given => simp [readTimestamp_eq_ok]
  rw [hstop, hstart]
  exact ⟨fun h => ⟨⟨h.stop_given, h.stop_default⟩, h.start_given, h.start_default⟩,
    fun ⟨⟨h₁, h₂⟩, h₃, h₄⟩ => ⟨h₁, h₂, h₃, h₄⟩⟩

theorem Asks.unique {w other : Window} (h : q.Asks now w) (hother : q.Asks now other) :
    w = other := by
  obtain ⟨hstop, hstart⟩ := asks_iff.mp h
  obtain ⟨hstop', hstart'⟩ := asks_iff.mp hother
  obtain ⟨start, stop⟩ := w
  obtain ⟨start', stop'⟩ := other
  cases hstop.symm.trans hstop'
  cases hstart.symm.trans hstart'
  rfl

/-- An end that is read lies far behind the first days there are, so only the clock can be early. -/
theorem le_day_of_resolveStop {days : Int} (hdays : days ≤ 31)
    (hnow : q.stop = none → firstDay + days ≤ now.day) {t : Instant}
    (h : q.resolveStop now = .ok t) : firstDay + days ≤ t.day := by
  rw [resolveStop] at h
  split at h
  · have hread := (Timestamp.day_bounds_of_parse (readTimestamp_eq_ok.mp h)).1
    rw [epochDay] at hread
    rw [firstDay]
    omega
  · next hnone =>
      cases h
      exact hnow hnone

/-! ## The faults of each stage -/

/-- A fault is an error that a stage fails with. -/
def FailsWith (text : String) (config : Config) (now : Instant) (stage : Stage) (fault : Fault) :
    Prop :=
  ∃ cause, fault = .refused cause ∧ Fails text config now stage cause

theorem ofText_eq_error {fault : Fault} :
    ((ofText text).mapError fun cause => .refused (.malformedRequest cause)) = .error fault ↔
      FailsWith text config now .reading fault := by
  rw [Except.mapError_eq_error]
  constructor
  · rintro ⟨cause, hunread, rfl⟩
    exact ⟨_, rfl, .reading hunread⟩
  · rintro ⟨_, rfl, hfails⟩
    cases hfails with
    | reading hunread => exact ⟨_, hunread, rfl⟩

theorem resolveDataspace_eq_error (hread : ofText text = .ok q) {fault : Fault} :
    q.resolveDataspace config = .error fault ↔ FailsWith text config now .dataspace fault := by
  rw [resolveDataspace]
  constructor
  · intro h
    split at h
    · cases h
    · next cause hinvalid =>
        cases h
        exact ⟨_, rfl, .dataspace hread hinvalid⟩
  · rintro ⟨_, rfl, hfails⟩
    cases hfails with
    | dataspace hread' hinvalid =>
        cases hread.symm.trans hread'
        rw [hinvalid]

theorem resolveStop_eq_error (hread : ofText text = .ok q) {fault : Fault} :
    q.resolveStop now = .error fault ↔ FailsWith text config now .stop fault := by
  rw [resolveStop]
  constructor
  · intro h
    split at h
    · next given hstop =>
        obtain ⟨cause, hinvalid, rfl⟩ := readTimestamp_eq_error.mp h
        exact ⟨_, rfl, .stop hread hstop hinvalid⟩
    · cases h
  · rintro ⟨_, rfl, hfails⟩
    cases hfails with
    | stop hread' hstop hinvalid =>
        cases hread.symm.trans hread'
        rw [hstop]
        exact readTimestamp_eq_error.mpr ⟨_, hinvalid, rfl⟩

/-- A start that is given can be wrong, and one that is left out may not be there. -/
theorem resolveStart_eq_error_iff (hread : ofText text = .ok q) {stop : Instant} {fault : Fault} :
    q.resolveStart stop = .error fault ↔
      FailsWith text config now .start fault ∨
        q.start = none ∧ Window.monthUpTo? stop = none ∧ fault = .noWindowUpTo stop := by
  rw [resolveStart]
  constructor
  · intro h
    split at h
    · next given hstart =>
        obtain ⟨cause, hinvalid, rfl⟩ := readTimestamp_eq_error.mp h
        exact Or.inl ⟨_, rfl, .start hread hstart hinvalid⟩
    · next hnone =>
        split at h
        · cases h
        · next hmonth =>
            cases h
            exact Or.inr ⟨hnone, hmonth, rfl⟩
  · rintro (⟨_, rfl, hfails⟩ | ⟨hnone, hmonth, rfl⟩)
    · cases hfails with
      | start hread' hstart hinvalid =>
          cases hread.symm.trans hread'
          rw [hstart]
          exact readTimestamp_eq_error.mpr ⟨_, hinvalid, rfl⟩
    · rw [hnone, hmonth]

/-- Thirty days on, a start that is left out is there, so only one that is given can be wrong. -/
theorem resolveStart_eq_error (hread : ofText text = .ok q) {stop : Instant}
    (hstop : firstDay + 30 ≤ stop.day) {fault : Fault} :
    q.resolveStart stop = .error fault ↔ FailsWith text config now .start fault := by
  rw [resolveStart_eq_error_iff hread, or_iff_left]
  rintro ⟨-, hmonth, -⟩
  obtain ⟨w, hw⟩ := Window.exists_monthUpTo? hstop
  cases hmonth.symm.trans hw

theorem resolveInterval_eq_error (hread : ofText text = .ok q) {fault : Fault} :
    q.resolveInterval config = .error fault ↔ FailsWith text config now .interval fault := by
  rw [resolveInterval]
  constructor
  · intro h
    split at h
    · next given hinterval =>
        rw [readInterval] at h
        cases hinvalid : Interval.ofText? given with
        | none =>
            rw [hinvalid] at h
            cases h
            exact ⟨_, rfl, .interval hread hinterval hinvalid⟩
        | some i => rw [hinvalid] at h; cases h
    · cases h
  · rintro ⟨_, rfl, hfails⟩
    cases hfails with
    | interval hread' hinterval hinvalid =>
        cases hread.symm.trans hread'
        rw [hinterval]
        simp only [readInterval, hinvalid]

/-- Refuses a window that does not start before it stops. -/
def checkWindow (w : Window) : Except Fault Unit :=
  if w.start.before w.stop then .ok () else .error (.refused (.invalidTimeRange w.start w.stop))

theorem checkWindow_eq_error (hread : ofText text = .ok q) {w : Window} (hasked : q.Asks now w)
    {fault : Fault} :
    checkWindow w = .error fault ↔ FailsWith text config now .window fault := by
  rw [checkWindow]
  constructor
  · intro h
    split at h
    · cases h
    · next hlate =>
        cases h
        exact ⟨_, rfl, .window hread hasked (Bool.eq_false_iff.mpr hlate)⟩
  · rintro ⟨_, rfl, hfails⟩
    cases hfails with
    | window hread' hasked' hlate =>
        cases hread.symm.trans hread'
        cases hasked.unique hasked'
        rw [hlate]
        rfl

/-- The trees of some texts. -/
def textTrees (options : Aggregation.Options) (texts : List String) :
    Except Fault (List Aggregation) :=
  (texts.mapM (RequestDraft.textTree options)).mapError fun cause => .refused (.breakdown cause)

/-- A text has a tree if it can be read, so trees fail as the reading of the texts does. -/
theorem textTrees_eq_error (hread : ofText text = .ok q) {options : Aggregation.Options}
    {fault : Fault} :
    textTrees options (q.texts config) = .error fault ↔
      FailsWith text config now .breakdowns fault := by
  simp only [textTrees, Except.mapError_eq_error, Except.mapM_eq_error,
    RequestDraft.exists_textTree_iff, RequestDraft.textTree_eq_error]
  constructor
  · rintro ⟨cause, ⟨before, breakdown, after, htexts, hbefore, hinvalid⟩, rfl⟩
    exact ⟨_, rfl, .breakdowns hread htexts hbefore hinvalid⟩
  · rintro ⟨_, rfl, hfails⟩
    cases hfails with
    | breakdowns hread' htexts hbefore hinvalid =>
        cases hread.symm.trans hread'
        exact ⟨_, ⟨_, _, _, htexts, hbefore, hinvalid⟩, rfl⟩

end Rollup.Inquiry
