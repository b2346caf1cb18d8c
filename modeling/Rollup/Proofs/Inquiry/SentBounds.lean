import Rollup.Proofs.Calendar.Timestamp
import Rollup.Proofs.Casing
import Rollup.Proofs.Inquiry.ConfiguredFilters
import Rollup.Proofs.Inquiry.Defaults

/-!
# Bounds that are sent

The filter of a compiled inquiry says its window in UTC, and both bounds can be
given back as start and end of another inquiry: that compiles to the same
request. What they need for it is a year of four digits. Each bound has one if
the year of its instant has four digits in UTC, which an offset may change: the
first hours of year 0 in the east still lie in the year before, and the last of
year 9999 in the west already in the year after. Such a bound has a sign, and
no inquiry can give it.
-/

namespace Rollup

open Calendar

/-- A text that starts with a year of four digits, without a sign. -/
def FourDigitYear (text : String) : Prop :=
  ∃ year rest, text.toList = year ++ '-' :: rest ∧ year.length = 4 ∧
    ∀ c ∈ year, c.isDigit = true

namespace Calendar.Instant

theorem exists_cons_writeYear (year : Int) :
    ∃ c cs, writeYear year = c :: cs ∧
      (c.isDigit = true ∧ 0 ≤ year ∧ year ≤ 9999 ∨ c = '-' ∨ c = '+') := by
  rw [writeYear]
  split
  · next hplain =>
      obtain ⟨c, cs, hcs⟩ := List.exists_cons_of_ne_nil (Text.padded_ne_nil 4 year.toNat)
      exact ⟨c, cs, hcs, Or.inl ⟨Text.isDigit_of_mem_padded (hcs ▸ List.mem_cons_self), hplain⟩⟩
  · refine ⟨_, _, rfl, Or.inr ?_⟩
    split
    · exact Or.inl rfl
    · exact Or.inr rfl

/-- No blank stands at either end of a stamp. -/
theorem trim_stamp (t : Instant) : Text.trim t.stamp.toList = t.stamp.toList := by
  obtain ⟨c, cs, hyear, hc⟩ := exists_cons_writeYear t.date.year
  have hblank : Text.isBlank c = false := by
    rcases hc with ⟨hdigit, -⟩ | rfl | rfl
    · exact (Text.PlainChar.of_isDigit hdigit).isBlank_eq
    · rfl
    · rfl
  obtain ⟨front, hfront⟩ : ∃ front, t.stamp.toList = front ++ ['Z'] := by
    rw [stamp, String.toList_ofList]
    exact ⟨_, rfl⟩
  have hstart : Text.trimStart t.stamp.toList = t.stamp.toList := by
    rw [Timestamp.toList_stamp, hyear, List.cons_append, Text.trimStart_cons hblank]
  rw [Text.trim, hstart, hfront, Text.trimEnd_concat front (by decide)]

theorem fourDigitYear_stamp {t : Instant} : FourDigitYear t.stamp ↔ t.InPlainYears := by
  constructor
  · rintro ⟨digits, rest, htext, hlength, hdigits⟩
    obtain ⟨c, cs, hyear, hc⟩ := exists_cons_writeYear t.date.year
    rw [Timestamp.toList_stamp, hyear] at htext
    cases digits with
    | nil => cases hlength
    | cons d digits =>
        have hd := hdigits d List.mem_cons_self
        rw [← (List.cons.inj htext).1] at hd
        rcases hc with ⟨-, hplain⟩ | rfl | rfl
        · exact hplain
        · cases hd
        · cases hd
  · intro h
    have hyear : writeYear t.date.year = Text.padded 4 t.date.year.toNat :=
      if_pos (show 0 ≤ t.date.year ∧ t.date.year ≤ 9999 from h)
    have hlength : (Text.padded 4 t.date.year.toNat).length = 4 :=
      Text.length_padded (by decide) (Nat.lt_succ_of_le (Int.toNat_le.mpr h.2))
    exact ⟨_, _, hyear ▸ Timestamp.toList_stamp t, hlength, fun _ => Text.isDigit_of_mem_padded⟩

end Calendar.Instant

namespace Inquiry

variable {q : Inquiry} {config : Config} {now : Instant} {requestId : String}

/-- A stamp names its instant, or it names none. -/
theorem readTimestamp_stamp {s t : Instant} :
    readTimestamp t.stamp = .ok s ↔ s = t ∧ t.InPlainYears := by
  rw [readTimestamp_eq_ok, Instant.trim_stamp]
  by_cases h : t.InPlainYears
  · rw [Timestamp.parse_stamp h, Except.ok.injEq]
    exact ⟨fun heq => ⟨heq.symm, h⟩, fun ⟨heq, _⟩ => heq.symm⟩
  · rw [Timestamp.parse_stamp_eq_error h]
    exact ⟨fun heq => (by cases heq), fun ⟨_, hplain⟩ => absurd hplain h⟩

/-- An inquiry that gives its window. -/
def spanning (q : Inquiry) (start stop : String) : Inquiry :=
  { q with start := some start, stop := some stop }

/-- With the stamps of its window in place of what it gave, an inquiry is resolved as before, if both
are timestamps. -/
theorem resolve_spanning_stamp {resolved resolved' : ResolvedInquiry}
    (hresolve : q.resolve config now requestId = .ok resolved) (now' : Instant) (other : String) :
    (q.spanning resolved.window.start.stamp resolved.window.stop.stamp).resolve config now' other =
        .ok resolved' ↔
      resolved' = { resolved with requestId := other } ∧
        resolved.window.start.InPlainYears ∧ resolved.window.stop.InPlainYears := by
  obtain ⟨dataspace, stop, start, interval, hdataspace, -, -, hinterval, rfl⟩ :=
    resolve_eq_ok.mp hresolve
  have hstop {s : Instant} : (q.spanning start.stamp stop.stamp).resolveStop now' = .ok s ↔
      s = stop ∧ stop.InPlainYears := by
    rw [resolveStop, spanning]
    exact readTimestamp_stamp
  have hstart {s s' : Instant} : (q.spanning start.stamp stop.stamp).resolveStart s' = .ok s ↔
      s = start ∧ start.InPlainYears := by
    rw [resolveStart, spanning]
    exact readTimestamp_stamp
  have hdataspace' : (q.spanning start.stamp stop.stamp).resolveDataspace config = .ok dataspace :=
    hdataspace
  have hinterval' : (q.spanning start.stamp stop.stamp).resolveInterval config = .ok interval :=
    hinterval
  rw [resolve_eq_ok]
  constructor
  · rintro ⟨d, stop', start', i, hd, hs, hs', hi, rfl⟩
    cases hdataspace'.symm.trans hd
    cases hinterval'.symm.trans hi
    obtain ⟨rfl, hplain⟩ := hstop.mp hs
    obtain ⟨rfl, hplain'⟩ := hstart.mp hs'
    exact ⟨rfl, hplain', hplain⟩
  · rintro ⟨rfl, hplain, hplain'⟩
    exact ⟨_, _, _, _, hdataspace', hstop.mpr ⟨rfl, hplain'⟩, hstart.mpr ⟨rfl, hplain⟩, hinterval',
      rfl⟩

/-- The bounds of a compiled inquiry that gave its start and its end. Each has a year of four digits,
and is then the timestamp of its instant, exactly if that instant lies in the years 0 to 9999; it may
lie a year outside of them. Given back, both bounds compile to the same request exactly if both
instants lie in those years. -/
theorem bounds_of_compile {given given' : String} {resolved : ResolvedInquiry} {r : SearchRequest}
    (hstart : q.start = some given) (hstop : q.stop = some given')
    (hresolve : q.resolve config now requestId = .ok resolved)
    (hcompile : (resolved.compile config).value = .ok r) :
    ∃ gte lt : String,
      r.filter.clauses.head? =
          some (.range Field.time none (some (.string gte)) (some (.string lt))) ∧
      (∀ bound ∈ [(gte, resolved.window.start), (lt, resolved.window.stop)],
        (FourDigitYear bound.1 ↔ bound.2.InPlainYears) ∧
        (∀ t, readTimestamp bound.1 = .ok t ↔ t = bound.2 ∧ bound.2.InPlainYears) ∧
        -1 ≤ bound.2.date.year ∧ bound.2.date.year ≤ 10000) ∧
      ∀ now' other r',
        (∃ resolved', (q.spanning gte lt).resolve config now' other = .ok resolved' ∧
            (resolved'.compile config).value = .ok r') ↔
          r' = r ∧ resolved.window.start.InPlainYears ∧ resolved.window.stop.InPlainYears := by
  have hgiven : readTimestamp given' = .ok resolved.window.stop ∧
      readTimestamp given = .ok resolved.window.start := by
    obtain ⟨_, _, _, _, -, hstop', hstart', -, rfl⟩ := resolve_eq_ok.mp hresolve
    rw [resolveStop, hstop] at hstop'
    rw [resolveStart, hstart] at hstart'
    exact ⟨hstop', hstart'⟩
  refine ⟨resolved.window.start.stamp, resolved.window.stop.stamp, ?_, ?_,
    fun now' other r' => ?_⟩
  · rw [clauses_of_compile hresolve hcompile]
    rfl
  · intro bound hbound
    have hyears {text : String} {t : Instant} (h : readTimestamp text = .ok t) :=
      Timestamp.year_bounds_of_parse (readTimestamp_eq_ok.mp h)
    rcases List.mem_pair.mp hbound with rfl | rfl
    · exact ⟨Instant.fourDigitYear_stamp, fun _ => readTimestamp_stamp, hyears hgiven.2⟩
    · exact ⟨Instant.fourDigitYear_stamp, fun _ => readTimestamp_stamp, hyears hgiven.1⟩
  · constructor
    · rintro ⟨resolved', hresolve', hcompile'⟩
      obtain ⟨rfl, hplain⟩ := (resolve_spanning_stamp hresolve now' other).mp hresolve'
      rw [value_compile_requestId, hcompile] at hcompile'
      cases hcompile'
      exact ⟨rfl, hplain⟩
    · rintro ⟨rfl, hplain⟩
      refine ⟨_, (resolve_spanning_stamp hresolve now' other).mpr ⟨rfl, hplain⟩, ?_⟩
      rw [value_compile_requestId, hcompile]

/-- An inquiry that gives its window and asks for no breakdowns. -/
def spanningOnly (start stop : String) : Inquiry :=
  { empty.spanning start stop with breakdowns := some [] }

theorem sound_spanningOnly {start stop : String} {w : Window}
    (hstart : Timestamp.parse (Text.trim start.toList) = .ok w.start)
    (hstop : Timestamp.parse (Text.trim stop.toList) = .ok w.stop)
    (hbefore : w.start.before w.stop = true) (now : Instant) :
    (spanningOnly start stop).Sound .default now := by
  have hdataspace : Dataspace.ofText "default" = .ok ⟨"default", by decide, by decide⟩ := by
    decide +kernel
  refine ⟨⟨_, hdataspace⟩, ?_, ?_, nofun, ⟨w, ⟨?_, nofun, ?_, nofun⟩, hbefore⟩, nofun⟩
  · rintro given ⟨⟩
    exact ⟨_, hstop⟩
  · rintro given ⟨⟩
    exact ⟨_, hstart⟩
  · rintro given ⟨⟩
    exact hstop
  · rintro given ⟨⟩
    exact hstart

/-- The window that is sent is the one that was given. -/
theorem exists_compiled_spanningOnly {start stop : String} {w : Window}
    (hstart : Timestamp.parse (Text.trim start.toList) = .ok w.start)
    (hstop : Timestamp.parse (Text.trim stop.toList) = .ok w.stop)
    (hbefore : w.start.before w.stop = true) (now : Instant) (requestId : String) :
    ∃ resolved r, (spanningOnly start stop).resolve .default now requestId = .ok resolved ∧
      (resolved.compile .default).value = .ok r ∧ resolved.window = w ∧
      r.filter.clauses.head? = some (.window w) := by
  obtain ⟨resolved, r, hresolve, hcompile⟩ :=
    (sound_spanningOnly hstart hstop hbefore now).exists_compiled requestId
  have hwindow : resolved.window = w := by
    obtain ⟨_, _, _, _, -, hstop', hstart', -, rfl⟩ := resolve_eq_ok.mp hresolve
    cases (readTimestamp_eq_ok.mpr hstop).symm.trans hstop'
    cases (readTimestamp_eq_ok.mpr hstart).symm.trans hstart'
    rfl
  refine ⟨resolved, r, hresolve, hcompile, hwindow, ?_⟩
  rw [clauses_of_compile hresolve hcompile, hwindow]
  rfl

/-- All the years of four digits, up to a leap second in the last of their days. -/
def plainYears : Window where
  start := (Instant.of? (-719528) 0 0).get (by decide)
  stop := (Instant.of? 2932896 86399 1500000000).get (by decide)

def plainYearsGiven : Inquiry :=
  spanningOnly "0000-01-01t05:30:00+05:30" " 9999-12-31 22:59:60.5000000001-01:00 "

theorem bounds_of_compile_plainYears :
    ∃ resolved r,
      plainYearsGiven.resolve .default plainYears.start "req-1" = .ok resolved ∧
      (resolved.compile .default).value = .ok r ∧
      r.filter.clauses.head? = some (.range Field.time none
        (some (.string "0000-01-01T00:00:00Z")) (some (.string "9999-12-31T23:59:60.500Z"))) ∧
      FourDigitYear "0000-01-01T00:00:00Z" ∧ FourDigitYear "9999-12-31T23:59:60.500Z" ∧
      ∃ resolved',
        (plainYearsGiven.spanning "0000-01-01T00:00:00Z" "9999-12-31T23:59:60.500Z").resolve
          .default plainYears.stop "req-2" = .ok resolved' ∧
        (resolved'.compile .default).value = .ok r := by
  have hgiven : Timestamp.parse (Text.trim "0000-01-01t05:30:00+05:30".toList) =
      .ok plainYears.start := by decide +kernel
  have hgiven' : Timestamp.parse (Text.trim " 9999-12-31 22:59:60.5000000001-01:00 ".toList) =
      .ok plainYears.stop := by decide +kernel
  obtain ⟨resolved, r, hresolve, hcompile, hwindow, hwritten⟩ :=
    exists_compiled_spanningOnly hgiven hgiven' (by decide) plainYears.start "req-1"
  obtain ⟨gte, lt, hhead, hbounds, hagain⟩ := bounds_of_compile rfl rfl hresolve hcompile
  have hstart : plainYears.start.stamp = "0000-01-01T00:00:00Z" := by decide +kernel
  have hstop : plainYears.stop.stamp = "9999-12-31T23:59:60.500Z" := by decide +kernel
  rw [hwritten, Clause.window, hstart, hstop] at hhead
  cases hhead
  rw [hwindow] at hbounds hagain
  have hplain : plainYears.start.InPlainYears ∧ plainYears.stop.InPlainYears := by decide
  refine ⟨resolved, r, hresolve, hcompile, by rw [hwritten, Clause.window, hstart, hstop],
    (hbounds _ List.mem_cons_self).1.mpr hplain.1,
    (hbounds _ (List.mem_cons_of_mem _ List.mem_cons_self)).1.mpr hplain.2, ?_⟩
  exact (hagain _ "req-2" r).mpr ⟨rfl, hplain⟩

/-- The first day of year 0, one hour to the east. -/
def yearZeroEast : Window where
  start := (Instant.of? (-719529) 82800 0).get (by decide)
  stop := (Instant.of? (-719528) 82800 0).get (by decide)

/-- An inquiry whose window starts in the first hour of year 0 in the east is compiled. The bound that
is sent has a sign in front of its year, and an inquiry that gives it is refused. -/
theorem bounds_of_compile_fails_east :
    ∃ resolved r,
      (spanningOnly "0000-01-01T00:00:00+01:00" "0000-01-02T00:00:00+01:00").resolve
        .default yearZeroEast.stop "req-1" = .ok resolved ∧
      (resolved.compile .default).value = .ok r ∧
      r.filter.clauses.head? = some (.range Field.time none
        (some (.string "-0001-12-31T23:00:00Z")) (some (.string "0000-01-01T23:00:00Z"))) ∧
      ¬ FourDigitYear "-0001-12-31T23:00:00Z" ∧
      readTimestamp "-0001-12-31T23:00:00Z" = .error (.refused (.invalidTimestamp
        "-0001-12-31T23:00:00Z" "input contains invalid characters")) ∧
      ∀ resolved', (spanningOnly "-0001-12-31T23:00:00Z" "0000-01-01T23:00:00Z").resolve
        .default yearZeroEast.stop "req-1" ≠ .ok resolved' := by
  have hgiven : Timestamp.parse (Text.trim "0000-01-01T00:00:00+01:00".toList) =
      .ok yearZeroEast.start := by decide +kernel
  have hgiven' : Timestamp.parse (Text.trim "0000-01-02T00:00:00+01:00".toList) =
      .ok yearZeroEast.stop := by decide +kernel
  have hstart : yearZeroEast.start.stamp = "-0001-12-31T23:00:00Z" := by decide +kernel
  have hstop : yearZeroEast.stop.stamp = "0000-01-01T23:00:00Z" := by decide +kernel
  have hyear : ¬ yearZeroEast.start.InPlainYears := by decide
  obtain ⟨resolved, r, hresolve, hcompile, hwindow, hwritten⟩ :=
    exists_compiled_spanningOnly hgiven hgiven' (by decide) yearZeroEast.stop "req-1"
  refine ⟨resolved, r, hresolve, hcompile, by rw [hwritten, Clause.window, hstart, hstop], ?_,
    by decide +kernel, fun resolved' hresolve' => ?_⟩
  · rw [← hstart, Instant.fourDigitYear_stamp]
    exact hyear
  · have hagain : ((spanningOnly "0000-01-01T00:00:00+01:00" "0000-01-02T00:00:00+01:00").spanning
        resolved.window.start.stamp resolved.window.stop.stamp).resolve .default
          yearZeroEast.stop "req-1" = .ok resolved' := by
      rw [hwindow, hstart, hstop]
      exact hresolve'
    obtain ⟨-, hplain, -⟩ := (resolve_spanning_stamp hresolve _ _).mp hagain
    rw [hwindow] at hplain
    exact hyear hplain

end Inquiry

end Rollup
