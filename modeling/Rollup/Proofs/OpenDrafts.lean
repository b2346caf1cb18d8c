import Rollup.Proofs.Calendar.Month
import Rollup.Proofs.Sifting

/-!
# Drafts that leave the window open

A draft can be prepared before a window was set. It then gets the month up to
now and is a draft like any other, so whatever holds of prepared drafts holds of
it with that window. The clock is read for nothing else: with a window that was
set, a draft is prepared alike at any time.

A month up to now is never empty, so a draft that leaves its window open is
refused for nothing but its breakdowns. One thing more can happen to it. In the
first thirty days there are, there is no month up to now, and no request.
-/

namespace Rollup.OpenDraft

open Calendar

variable {d : OpenDraft} {now : Instant} {prepared : Logged (Except RequestError SearchRequest)}

/-- A draft is prepared with the window that was set, or with the month up to now. -/
theorem prepare?_eq_some_iff :
    d.prepare? now = some prepared ↔
      ∃ w, (d.window? = some w ∨ d.window? = none ∧ Window.monthUpTo? now = some w) ∧
        RequestDraft.prepare ⟨d.toSearchSettings, w⟩ = prepared := by
  rw [prepare?, close?, Option.map_map, Option.map_eq_some_iff]
  simp only [Option.or_eq_some_iff]
  rfl

/-- With a window that was set, the clock makes no difference. -/
theorem prepare?_of_window {w : Window} (h : d.window? = some w) (now : Instant) :
    d.prepare? now = some (RequestDraft.prepare ⟨d.toSearchSettings, w⟩) :=
  prepare?_eq_some_iff.mpr ⟨w, Or.inl h, rfl⟩

/-- There is no outcome if the window was left open less than thirty days after the first instant. -/
theorem prepare?_eq_none_iff :
    d.prepare? now = none ↔ d.window? = none ∧
      now.seconds + (now.nano / fullSecond : Nat) < (firstDay + 30) * fullDay := by
  rw [prepare?, Option.map_eq_none_iff, close?, Option.map_eq_none_iff, Option.or_eq_none_iff,
    Window.monthUpTo?_eq_none_iff]

/-- With an open window, the draft is prepared for the month up to now, and that is not what it is
refused for. -/
theorem prepare?_of_open (hopen : d.window? = none) (h : d.prepare? now = some prepared) :
    ∃ start, Window.monthUpTo? now = some ⟨start, now⟩ ∧
      prepared = RequestDraft.prepare ⟨d.toSearchSettings, ⟨start, now⟩⟩ ∧
      (firstDay + 31 ≤ now.day → start.MonthEarlier now) ∧
      ∀ cause, prepared.value = .error cause → ∃ fault, cause = .breakdown fault := by
  obtain ⟨⟨start, stop⟩, hset | ⟨-, hmonth⟩, rfl⟩ := prepare?_eq_some_iff.mp h
  · cases hopen.symm.trans hset
  obtain rfl : stop = now := Window.stop_of_monthUpTo? hmonth
  refine ⟨start, hmonth, rfl, fun hday => ?_, fun cause hcause => ?_⟩
  · obtain ⟨earlier, hearlier, hmonthEarlier⟩ := Window.exists_monthEarlier hday
    rw [hmonth, Option.some.injEq, Window.mk.injEq] at hearlier
    rwa [hearlier.1]
  · rcases RequestDraft.prepare_eq_error_iff.mp hcause with ⟨hempty, -⟩ | ⟨-, fault, -, hfault⟩
    · cases hempty.symm.trans (Window.before_of_monthUpTo? hmonth)
    · exact ⟨fault, hfault⟩

end Rollup.OpenDraft
