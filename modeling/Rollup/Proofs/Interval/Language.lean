import Rollup.Inquiry
import Rollup.Proofs.Interval

/-!
# The texts that are intervals

A normalised text stands for a number of seconds if it is the name of a unit, or
digits with the letter of a unit behind them. The number may be anything: zero,
or more than a word holds. Which of these texts are intervals is then one
condition on the seconds, that there is at least one and that a signed word
holds them, wherever the reader itself gives up. The others, and the texts that
stand for nothing, are refused as they were given.
-/

namespace Rollup.Interval

/-- The names of the units, with the seconds of each. -/
def unitNames : List (String × Nat) :=
  [("minute", 60), ("hour", 3600), ("day", 86400), ("week", 604800)]

/-- A normalised text stands for a number of seconds. -/
inductive Denotes : List Char → Nat → Prop
  | named {word : String} {seconds : Nat} (listed : (word, seconds) ∈ unitNames) :
      Denotes word.toList seconds
  | counted {digits : List Char} {letter : Char} {unit : Nat} (nonempty : digits ≠ [])
      (decimal : ∀ c ∈ digits, c.isDigit = true) (listed : (letter, unit) ∈ unitLetters) :
      Denotes (digits ++ [letter]) (Nat.ofDigitChars 10 digits 0 * unit)

theorem eq_of_seconds {i j : Interval} (h : i.seconds = j.seconds) : i = j := by
  cases i
  cases j
  cases h
  rfl

theorem named?_of_mem {word : String} {i : Interval} (h : (word, i.seconds) ∈ unitNames) :
    named? word.toList = some i := by
  have hall : ∀ entry ∈ unitNames, (named? entry.1.toList).map seconds = some entry.2 := by decide
  obtain ⟨j, hnamed, hseconds⟩ := Option.map_eq_some_iff.mp (hall _ h)
  rw [hnamed, eq_of_seconds hseconds]

theorem denotes_of_named? {cs : List Char} {i : Interval} (h : named? cs = some i) :
    Denotes cs i.seconds := by
  rw [named?] at h
  split at h
  · next hword => cases h; exact hword ▸ .named (by decide)
  split at h
  · next hword => cases h; exact hword ▸ .named (by decide)
  split at h
  · next hword => cases h; exact hword ▸ .named (by decide)
  split at h
  · next hword => cases h; exact hword ▸ .named (by decide)
  · cases h

theorem denotes_of_counted? {cs : List Char} {i : Interval} (h : counted? cs = some i) :
    Denotes cs i.seconds := by
  rw [counted?] at h
  obtain ⟨n, hnumber, h⟩ := Option.bind_eq_some_iff.mp h
  obtain ⟨m, hdigits, hn⟩ := Option.bind_eq_some_iff.mp hnumber
  obtain ⟨unit, hunit, h⟩ := Option.bind_eq_some_iff.mp h
  obtain ⟨seconds, hseconds, h⟩ := Option.bind_eq_some_iff.mp h
  obtain ⟨rfl, -⟩ := Word.signed?_eq_some.mp hn
  obtain ⟨rfl, -⟩ := Word.signed?_eq_some.mp hseconds
  obtain ⟨letter, hletter, hlisted⟩ := unit?_eq_some.mp hunit
  rw [ofNat?_eq_some.mp h, ← List.takeWhile_append_dropWhile (p := Char.isDigit) (l := cs), hletter]
  rw [Text.digits?] at hdigits
  split at hdigits
  · next hdecimal =>
      cases hdigits
      exact .counted hdecimal.1 (List.all_eq_true.mp hdecimal.2) hlisted
  · cases hdigits

/-- A normalised text is read as an interval if and only if it stands for its seconds. -/
theorem ofChars?_eq_some {cs : List Char} {i : Interval} :
    ofChars? cs = some i ↔ Denotes cs i.seconds := by
  constructor
  · intro h
    rw [ofChars?] at h
    split at h
    · next hnamed =>
        cases h
        exact denotes_of_named? hnamed
    · exact denotes_of_counted? h
  · generalize hseconds : i.seconds = n
    rintro (hlisted | ⟨hne, hdecimal, hlisted⟩)
    · rw [ofChars?, named?_of_mem (hseconds ▸ hlisted)]
    · rw [ofChars?_append hne hdecimal hlisted, ofNat?_eq_some.mpr hseconds]

/-! ## With the error -/

theorem readInterval_eq_ok {text : String} {i : Interval} :
    Inquiry.readInterval text = .ok i ↔ ofText? text = some i := by
  rw [Inquiry.readInterval]
  cases ofText? text <;> simp

theorem readInterval_eq_error {text : String} {cause : RequestError} :
    Inquiry.readInterval text = .error cause ↔
      cause = .invalidInterval text ∧ ¬∃ i, Inquiry.readInterval text = .ok i := by
  rw [Inquiry.readInterval]
  cases ofText? text <;> simp [eq_comm]

theorem exists_readInterval_iff {text : String} {n : Nat} :
    (∃ i, Inquiry.readInterval text = .ok i ∧ i.seconds = n) ↔
      Denotes (Text.lowercase (Text.trim text.toList)) n ∧ 1 ≤ n ∧ n ≤ 9223372036854775807 := by
  constructor
  · rintro ⟨i, hread, rfl⟩
    exact ⟨ofChars?_eq_some.mp (readInterval_eq_ok.mp hread), i.pos, Nat.le_of_lt_succ i.lt⟩
  · rintro ⟨hdenotes, hpos, hle⟩
    exact ⟨⟨n, hpos, Nat.lt_succ_of_le hle⟩,
      readInterval_eq_ok.mpr (ofChars?_eq_some.mpr hdenotes), rfl⟩

/-- A text is read as an interval of `n` seconds if and only if it stands for `n` seconds and `n` is
positive and less than 2 to the 63rd. Any other text is refused, and the error has the text with its
blanks and its capitals. -/
theorem readInterval_iff_denotes (text : String) :
    (∀ n, (∃ i, Inquiry.readInterval text = .ok i ∧ i.seconds = n) ↔
      Denotes (Text.lowercase (Text.trim text.toList)) n ∧ 1 ≤ n ∧ n ≤ 9223372036854775807) ∧
    ∀ cause, Inquiry.readInterval text = .error cause ↔
      cause = .invalidInterval text ∧
        ¬∃ n, Denotes (Text.lowercase (Text.trim text.toList)) n ∧ 1 ≤ n ∧
          n ≤ 9223372036854775807 := by
  refine ⟨fun n => exists_readInterval_iff, fun cause => ?_⟩
  rw [readInterval_eq_error]
  refine and_congr_right fun _ => not_congr ?_
  constructor
  · rintro ⟨i, hread⟩
    exact ⟨i.seconds, exists_readInterval_iff.mp ⟨i, hread, rfl⟩⟩
  · rintro ⟨n, hdenotes⟩
    obtain ⟨i, hread, -⟩ := exists_readInterval_iff.mpr hdenotes
    exact ⟨i, hread⟩

/-- The most weeks that a signed word holds the seconds of, with zeros in front, and one more. -/
example : (ofText? "00000000015250284452471W").map seconds = some 9223372036854460800 ∧
    ofText? "15250284452472w" = none := by
  decide +kernel

end Rollup.Interval
