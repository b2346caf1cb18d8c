import Rollup.Proofs.Interval.Language

/-!
# Intervals that are spans of time

A span of time is counted in milliseconds, an interval in seconds, and a signed
word bounds both counts. So there are intervals that are no span: all from a
thousandth of the word's bound on. What is accepted as an interval is only asked
about its seconds, whether it is a text or a number, and that is all the argument
uses. It is therefore made once, for any way in which intervals come in.
-/

namespace Rollup.Interval

/-- An interval is the span of its seconds if a signed word holds its milliseconds. -/
theorem span?_eq_some {i : Interval} {n : Nat} :
    i.span? = some n ↔ i.seconds = n ∧ n * 1000 ≤ 9223372036854775807 := by
  rw [span?, longestSpan]
  split
  · next hshort =>
      rw [Option.some.injEq]
      constructor
      · rintro rfl
        exact ⟨rfl, by omega⟩
      · exact And.left
  · next hlong =>
      constructor
      · intro h
        cases h
      · rintro ⟨rfl, hmillis⟩
        omega

theorem span?_eq_none {i : Interval} :
    i.span? = none ↔ 9223372036854775807 < i.seconds * 1000 := by
  rw [Option.eq_none_iff_forall_ne_some, ← Nat.not_le]
  constructor
  · intro h hmillis
    exact h i.seconds (span?_eq_some.mpr ⟨rfl, hmillis⟩)
  · rintro h n hspan
    obtain ⟨rfl, hmillis⟩ := span?_eq_some.mp hspan
    exact h hmillis

/-- If intervals come in for all the numbers of seconds that a word holds, then a part of them are
spans, and the others come in all the same. -/
theorem spans_of_seconds {accepted : Interval → Prop} {meant : Nat → Prop}
    (haccepted : ∀ n, (∃ i, accepted i ∧ i.seconds = n) ↔
      meant n ∧ 1 ≤ n ∧ n ≤ 9223372036854775807) (n : Nat) :
    ((∃ i, accepted i ∧ i.span? = some n) ↔
        meant n ∧ 1 ≤ n ∧ n * 1000 ≤ 9223372036854775807) ∧
      ((∃ i, accepted i ∧ i.seconds = n ∧ i.span? = none) ↔
        meant n ∧ 9223372036854775807 < n * 1000 ∧ n ≤ 9223372036854775807) := by
  constructor
  · constructor
    · rintro ⟨i, hi, hspan⟩
      obtain ⟨hseconds, hmillis⟩ := span?_eq_some.mp hspan
      obtain ⟨hmeant, hpos, -⟩ := (haccepted n).mp ⟨i, hi, hseconds⟩
      exact ⟨hmeant, hpos, hmillis⟩
    · rintro ⟨hmeant, hpos, hmillis⟩
      obtain ⟨i, hi, hseconds⟩ := (haccepted n).mpr ⟨hmeant, hpos, by omega⟩
      exact ⟨i, hi, span?_eq_some.mpr ⟨hseconds, hmillis⟩⟩
  · constructor
    · rintro ⟨i, hi, hseconds, hspan⟩
      obtain ⟨hmeant, -, hword⟩ := (haccepted n).mp ⟨i, hi, hseconds⟩
      exact ⟨hmeant, hseconds ▸ span?_eq_none.mp hspan, hword⟩
    · rintro ⟨hmeant, hmillis, hword⟩
      obtain ⟨i, hi, hseconds⟩ := (haccepted n).mpr ⟨hmeant, by omega, hword⟩
      exact ⟨i, hi, hseconds, span?_eq_none.mpr (hseconds.symm ▸ hmillis)⟩

theorem exists_ofSeconds?_iff {k : Int} {n : Nat} :
    (∃ i, ofSeconds? k = some i ∧ i.seconds = n) ↔
      k = n ∧ 1 ≤ n ∧ n ≤ 9223372036854775807 := by
  simp only [ofSeconds?, ofNat?_eq_some]
  constructor
  · rintro ⟨i, hseconds, rfl⟩
    have hpos := i.pos
    exact ⟨by omega, hpos, Nat.le_of_lt_succ i.lt⟩
  · rintro ⟨rfl, hpos, hword⟩
    exact ⟨⟨n, hpos, Nat.lt_succ_of_le hword⟩, rfl, rfl⟩

/-- An interval that is read from a text, or made from a number of seconds, is a span of just these
seconds if a signed word holds its milliseconds. From there up to the seconds that the word holds,
texts and numbers are intervals as well, and those are no spans. -/
theorem span_iff_milliseconds (n : Nat) :
    (∀ text,
      ((∃ i, Inquiry.readInterval text = .ok i ∧ i.span? = some n) ↔
          Denotes (Text.lowercase (Text.trim text.toList)) n ∧ 1 ≤ n ∧
            n * 1000 ≤ 9223372036854775807) ∧
        ((∃ i, Inquiry.readInterval text = .ok i ∧ i.seconds = n ∧ i.span? = none) ↔
          Denotes (Text.lowercase (Text.trim text.toList)) n ∧
            9223372036854775807 < n * 1000 ∧ n ≤ 9223372036854775807)) ∧
    ∀ k : Int,
      ((∃ i, ofSeconds? k = some i ∧ i.span? = some n) ↔
          k = n ∧ 1 ≤ n ∧ n * 1000 ≤ 9223372036854775807) ∧
        ((∃ i, ofSeconds? k = some i ∧ i.seconds = n ∧ i.span? = none) ↔
          k = n ∧ 9223372036854775807 < n * 1000 ∧ n ≤ 9223372036854775807) :=
  ⟨fun _ => spans_of_seconds (fun _ => exists_readInterval_iff) n,
    fun _ => spans_of_seconds (fun _ => exists_ofSeconds?_iff) n⟩

/-- The shortest interval that is no span, as a text and as a number. -/
theorem span?_fails_long :
    ∃ i, Inquiry.readInterval "9223372036854776s" = .ok i ∧
      ofSeconds? 9223372036854776 = some i ∧ i.seconds = 9223372036854776 ∧ i.span? = none := by
  refine ⟨⟨9223372036854776, by decide, by decide⟩, ?_, by decide +kernel, rfl, by decide⟩
  exact readInterval_eq_ok.mpr (by decide +kernel)

end Rollup.Interval
