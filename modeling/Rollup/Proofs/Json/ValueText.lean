import Mathlib.Data.List.TakeDrop
import Rollup.Json.Skip
import Rollup.Proofs.Json.TextMap

/-!
# The text of a value

Any JSON value, as a grammar: a word, a number of any size, a string, or an
array or object of values. An array and an object differ only in what stands in
front of their values, so there is one rule for both.

The skipper holds what is open in a list and counts its rounds, so its
completeness is said of a value inside anything: after as many rounds as the
value needs, at most two for each of its characters, it stands behind the value
with the same things open. A number is the only value that goes on with the
text behind it, and what ends it is asked of that text.

The skipper is a function, so a value ends in one place only. A reader that
takes a value and stops where the grammar says therefore stops where the
skipper does, whatever it makes of the value.
-/

namespace Rollup.Json

/-! ## The grammar -/

/-- Digits, at least one. -/
def DigitsText (cs : List Char) : Prop := cs ≠ [] ∧ ∀ c ∈ cs, c.isDigit = true

/-- Digits with no zero in front of another. -/
def WholeText (cs : List Char) : Prop := DigitsText cs ∧ ∀ more, cs = '0' :: more → more = []

inductive FractionText : List Char → Prop
  | absent : FractionText []
  | digits {ds : List Char} : DigitsText ds → FractionText ('.' :: ds)

inductive ExponentText : List Char → Prop
  | absent : ExponentText []
  | digits {mark : Char} {sign ds : List Char} :
      mark = 'e' ∨ mark = 'E' → sign ∈ [[], ['+'], ['-']] → DigitsText ds →
        ExponentText (mark :: (sign ++ ds))

inductive NumberText : List Char → Prop
  | mk {sign whole fraction exponent : List Char} :
      sign ∈ [[], ['-']] → WholeText whole → FractionText fraction → ExponentText exponent →
        NumberText (sign ++ (whole ++ (fraction ++ exponent)))

/-- What stands between the quotes of a string. The escapes of single surrogates are spelled right,
though they make no character. -/
inductive BodyText : List Char → Prop
  | nil : BodyText []
  | plain {c : Char} {body : List Char} :
      c ≠ '"' → c ≠ '\\' → 0x20 ≤ c.toNat → BodyText body → BodyText (c :: body)
  | letter {e c : Char} {body : List Char} :
      (e, c) ∈ letterEscapes → BodyText body → BodyText ('\\' :: e :: body)
  | unit {digits body : List Char} {n : Nat} :
      HexUnit digits n → BodyText body → BodyText ('\\' :: 'u' :: (digits ++ body))

inductive ScalarText : List Char → Prop
  | null : ScalarText ['n', 'u', 'l', 'l']
  | true : ScalarText ['t', 'r', 'u', 'e']
  | false : ScalarText ['f', 'a', 'l', 's', 'e']
  | number {cs : List Char} : NumberText cs → ScalarText cs
  | string {body : List Char} : BodyText body → ScalarText ('"' :: (body ++ ['"']))

/-- The character that opens an array or object. -/
def Frame.opening : Frame → Char
  | list => '['
  | object => '\x7b'

/-- What stands in front of a value. -/
inductive LabelText : Frame → List Char → Prop
  | item : LabelText .list []
  | key {body w : List Char} :
      BodyText body → AllBlank w → LabelText .object ('"' :: (body ++ '"' :: (w ++ [':'])))

mutual

/-- A value. -/
inductive ValueText : List Char → Prop
  | scalar {cs : List Char} : ScalarText cs → ValueText cs
  | empty {w : List Char} (frame : Frame) :
      AllBlank w → ValueText (frame.opening :: (w ++ [frame.close]))
  | filled {cs : List Char} (frame : Frame) :
      ElementsText frame cs → ValueText (frame.opening :: cs)

/-- The elements of an array or object that has some, with what closes it. -/
inductive ElementsText : Frame → List Char → Prop
  | mk {frame : Frame} {w label w' v tail : List Char} :
      AllBlank w → LabelText frame label → AllBlank w' → ValueText v → TailText frame tail →
        ElementsText frame (w ++ (label ++ (w' ++ (v ++ tail))))

/-- What follows an element. -/
inductive TailText : Frame → List Char → Prop
  | close {frame : Frame} {w : List Char} : AllBlank w → TailText frame (w ++ [frame.close])
  | comma {frame : Frame} {w cs : List Char} :
      AllBlank w → ElementsText frame cs → TailText frame (w ++ ',' :: cs)

end

/-- A text that no number goes on with. -/
def EndsNumber (rest : List Char) : Prop :=
  ∀ c more, rest = c :: more → c.isDigit = false ∧ c ≠ '.' ∧ c ≠ 'e' ∧ c ≠ 'E'

theorem EndsNumber.cons {c : Char} (hc : isBlank c = true ∨ c ∈ [',', ']', '\x7d'])
    (rest : List Char) : EndsNumber (c :: rest) := by
  intro c' more h
  cases h
  simp only [isBlank, Bool.or_eq_true, decide_eq_true_eq, List.mem_cons, List.not_mem_nil,
    or_false] at hc
  rcases hc with (((rfl | rfl) | rfl) | rfl) | rfl | rfl | rfl
  all_goals decide

/-- Blanks and what may follow a value end a number. -/
theorem EndsNumber.append {w : List Char} (hw : AllBlank w) {c : Char} (hc : c ∈ [',', ']', '\x7d'])
    (rest : List Char) : EndsNumber (w ++ c :: rest) := by
  cases w with
  | nil => exact .cons (Or.inr hc) rest
  | cons b w => exact .cons (Or.inl (hw b List.mem_cons_self)) _

theorem TailText.endsNumber {frame : Frame} {tail : List Char} (h : TailText frame tail)
    (rest : List Char) : EndsNumber (tail ++ rest) := by
  cases h with
  | close hw =>
      rw [List.append_assoc]
      exact .append hw (by cases frame <;> decide) rest
  | comma hw _ =>
      rw [List.append_assoc]
      exact .append hw (by decide) _

/-! ## First characters -/

theorem isBlank_of_isDigit {c : Char} (hc : c.isDigit = true) : isBlank c = false := by
  have hne : ∀ b : Char, b.isDigit = false → c ≠ b := fun b hb heq => by
    rw [heq, hb] at hc
    cases hc
  simp [isBlank, hne ' ' rfl, hne '\t' rfl, hne '\n' rfl, hne '\r' rfl]

/-- No blank, and nothing that closes or separates. -/
def StartsValue (c : Char) : Prop := isBlank c = false ∧ c ≠ ',' ∧ c ≠ ']' ∧ c ≠ '\x7d'

instance (c : Char) : Decidable (StartsValue c) := by
  unfold StartsValue
  infer_instance

theorem StartsValue.of_isDigit {c : Char} (hc : c.isDigit = true) : StartsValue c := by
  refine ⟨isBlank_of_isDigit hc, ?_, ?_, ?_⟩
  all_goals
    rintro rfl
    cases hc

theorem DigitsText.exists_cons {cs : List Char} (h : DigitsText cs) :
    ∃ c more, cs = c :: more ∧ c.isDigit = true := by
  obtain ⟨c, more, rfl⟩ := List.exists_cons_of_ne_nil h.1
  exact ⟨c, more, rfl, h.2 c List.mem_cons_self⟩

theorem NumberText.exists_cons {cs : List Char} (h : NumberText cs) :
    ∃ c more, cs = c :: more ∧ (c = '-' ∨ c.isDigit = true) := by
  obtain ⟨hsign, hwhole, -, -⟩ := h
  obtain ⟨c, more, rfl, hc⟩ := hwhole.1.exists_cons
  simp only [List.mem_cons, List.not_mem_nil, or_false] at hsign
  rcases hsign with rfl | rfl
  · exact ⟨_, _, rfl, Or.inr hc⟩
  · exact ⟨_, _, rfl, Or.inl rfl⟩

theorem ScalarText.exists_cons {cs : List Char} (h : ScalarText cs) :
    ∃ c more, cs = c :: more ∧ StartsValue c := by
  cases h with
  | null => exact ⟨_, _, rfl, by decide⟩
  | true => exact ⟨_, _, rfl, by decide⟩
  | false => exact ⟨_, _, rfl, by decide⟩
  | string _ => exact ⟨_, _, rfl, by decide⟩
  | number h =>
      obtain ⟨c, more, rfl, hc⟩ := h.exists_cons
      rcases hc with rfl | hc
      · exact ⟨_, _, rfl, by decide⟩
      · exact ⟨_, _, rfl, .of_isDigit hc⟩

theorem ValueText.exists_cons {v : List Char} (h : ValueText v) :
    ∃ c more, v = c :: more ∧ StartsValue c := by
  cases h with
  | scalar h => exact h.exists_cons
  | empty frame _ => exact ⟨_, _, rfl, by cases frame <;> decide⟩
  | filled frame _ => exact ⟨_, _, rfl, by cases frame <;> decide⟩

theorem skipBlanks_value {w v : List Char} (hw : AllBlank w) (hv : ValueText v)
    (rest : List Char) : skipBlanks (w ++ (v ++ rest)) = v ++ rest := by
  obtain ⟨c, more, rfl, hc⟩ := hv.exists_cons
  rw [skipBlanks_append hw, List.cons_append, skipBlanks_cons hc.1]

/-! ## Scalars are skipped -/

theorem spanDigits_append {ds rest : List Char} (hds : ∀ c ∈ ds, c.isDigit = true)
    (hrest : ∀ c more, rest = c :: more → c.isDigit = false) :
    Binary64.spanDigits (ds ++ rest) = (ds, rest) := by
  rw [Binary64.spanDigits, List.span_eq_takeWhile_dropWhile, List.takeWhile_append_of_pos hds,
    List.dropWhile_append_of_pos hds]
  cases rest with
  | nil => simp
  | cons c more =>
      have hc : ¬ c.isDigit = true := by simp [hrest c more rfl]
      rw [List.takeWhile_cons_of_neg hc, List.dropWhile_cons_of_neg hc, List.append_nil]

theorem skipDigits_append {ds rest : List Char} (hds : DigitsText ds)
    (hrest : ∀ c more, rest = c :: more → c.isDigit = false) :
    skipDigits (ds ++ rest) = .ok rest := by
  rw [skipDigits, spanDigits_append hds.2 hrest]
  obtain ⟨c, more, rfl, -⟩ := hds.exists_cons
  rfl

theorem skipExponent_append {exponent rest : List Char} (h : ExponentText exponent)
    (hrest : EndsNumber rest) : skipExponent (exponent ++ rest) = .ok rest := by
  cases h with
  | absent =>
      cases rest with
      | nil => rfl
      | cons c more =>
          obtain ⟨-, -, he, hE⟩ := hrest c more rfl
          rw [List.nil_append, skipExponent.eq_def]
          exact if_neg (not_or.mpr ⟨he, hE⟩)
  | @digits mark sign ds hmark hsign hds =>
      have hskip : skipDigits (ds ++ rest) = .ok rest :=
        skipDigits_append hds fun c more heq => (hrest c more heq).1
      rw [List.cons_append, skipExponent.eq_def]
      simp only [if_pos hmark]
      simp only [List.mem_cons, List.not_mem_nil, or_false] at hsign
      rcases hsign with rfl | rfl | rfl
      · obtain ⟨c, more, rfl, hc⟩ := hds.exists_cons
        have hplain : ¬ (c = '+' ∨ c = '-') := by
          rintro (rfl | rfl) <;> cases hc
        simp only [List.nil_append, List.cons_append, if_neg hplain] at hskip ⊢
        exact hskip
      · simpa using hskip
      · simpa using hskip

/-- An exponent ends the digits in front of it. -/
theorem ExponentText.ends {exponent rest : List Char} (h : ExponentText exponent)
    (hrest : EndsNumber rest) :
    ∀ c more, exponent ++ rest = c :: more → c.isDigit = false ∧ c ≠ '.' := by
  intro c more heq
  cases h with
  | absent => exact ⟨(hrest c more heq).1, (hrest c more heq).2.1⟩
  | digits hmark _ _ =>
      obtain ⟨rfl, -⟩ := List.cons.inj heq
      rcases hmark with rfl | rfl <;> decide

theorem skipNumber_append {whole fraction exponent rest : List Char} (hwhole : WholeText whole)
    (hfraction : FractionText fraction) (hexponent : ExponentText exponent)
    (hrest : EndsNumber rest) :
    skipNumber (whole ++ (fraction ++ (exponent ++ rest))) = .ok rest := by
  have hends := hexponent.ends hrest
  have hafter : ∀ c more, fraction ++ (exponent ++ rest) = c :: more → c.isDigit = false := by
    intro c more heq
    cases hfraction with
    | absent => exact (hends c more heq).1
    | digits _ =>
        obtain ⟨rfl, -⟩ := List.cons.inj heq
        rfl
  rw [skipNumber, spanDigits_append hwhole.1.2 hafter]
  obtain ⟨c, more, rfl, -⟩ := hwhole.1.exists_cons
  have hzero : ¬ (c = '0' ∧ more ≠ []) := by
    rintro ⟨rfl, hmore⟩
    exact hmore (hwhole.2 more rfl)
  simp only [if_neg hzero]
  cases hfraction with
  | absent =>
      have hskip := skipExponent_append hexponent hrest
      rw [List.nil_append]
      split
      · next heq => exact absurd rfl (hends _ _ heq).2
      · exact hskip
  | digits hds =>
      refine Except.bind_eq_ok.mpr ⟨_, skipDigits_append hds fun c more heq => (hends c more heq).1, ?_⟩
      exact skipExponent_append hexponent hrest

theorem skipCharacters_append {body : List Char} (h : BodyText body) (rest : List Char) :
    ∀ fuel, body.length < fuel → skipCharacters fuel (body ++ '"' :: rest) = .ok rest := by
  induction h with
  | nil =>
      intro fuel hfuel
      obtain ⟨fuel, rfl⟩ := Nat.exists_eq_succ_of_ne_zero (Nat.ne_of_gt hfuel)
      rfl
  | @plain c body hquote hslash hcontrol _ ih =>
      intro fuel hfuel
      obtain ⟨fuel, rfl⟩ := Nat.exists_eq_succ_of_ne_zero (Nat.ne_zero_of_lt hfuel)
      rw [List.cons_append, skipCharacters.eq_def]
      simp only [if_neg hquote, if_neg hslash, if_neg (Nat.not_lt.mpr hcontrol)]
      exact ih fuel (Nat.lt_of_succ_lt_succ hfuel)
  | @letter e c body hmem _ ih =>
      intro fuel hfuel
      obtain ⟨fuel, rfl⟩ := Nat.exists_eq_succ_of_ne_zero (Nat.ne_zero_of_lt hfuel)
      have hletter : e ≠ 'u' ∧ e ∈ ['"', '\\', '/', 'b', 'f', 'n', 'r', 't'] := by
        simp only [letterEscapes, List.mem_cons, Prod.mk.injEq, List.not_mem_nil, or_false] at hmem
        rcases hmem with ⟨rfl, -⟩ | ⟨rfl, -⟩ | ⟨rfl, -⟩ | ⟨rfl, -⟩ | ⟨rfl, -⟩ | ⟨rfl, -⟩ |
          ⟨rfl, -⟩ | ⟨rfl, -⟩
        all_goals decide
      rw [List.cons_append, List.cons_append, skipCharacters, if_neg (by decide), if_pos rfl]
      simp only [if_neg hletter.1, if_pos hletter.2]
      exact ih fuel (by simp only [List.length_cons] at hfuel; omega)
  | @unit digits body n hdigits _ ih =>
      intro fuel hfuel
      obtain ⟨fuel, rfl⟩ := Nat.exists_eq_succ_of_ne_zero (Nat.ne_zero_of_lt hfuel)
      rw [List.cons_append, List.cons_append, List.append_assoc, skipCharacters,
        if_neg (by decide), if_pos rfl]
      refine Except.bind_eq_ok.mpr ⟨_, readHex_eq_ok.mpr ⟨digits, hdigits, rfl⟩, ?_⟩
      exact ih fuel (by simp only [List.length_cons, List.length_append] at hfuel; omega)

theorem skipString_append {body : List Char} (h : BodyText body) (rest : List Char) :
    skipString (body ++ '"' :: rest) = .ok rest :=
  skipCharacters_append h rest _ (by rw [List.length_append]; omega)

theorem skipScalar_append {cs rest : List Char} (h : ScalarText cs)
    (hrest : NumberText cs → EndsNumber rest) :
    ∃ c more, cs = c :: more ∧ isBlank c = false ∧ c ≠ '[' ∧ c ≠ '\x7b' ∧
      skipScalar c (more ++ rest) = .ok rest := by
  cases h with
  | null => exact ⟨_, _, rfl, by decide, by decide, by decide, rfl⟩
  | true => exact ⟨_, _, rfl, by decide, by decide, by decide, rfl⟩
  | false => exact ⟨_, _, rfl, by decide, by decide, by decide, rfl⟩
  | @string body h =>
      refine ⟨_, _, rfl, by decide, by decide, by decide, ?_⟩
      rw [List.append_assoc]
      exact skipString_append h rest
  | number h =>
      have hends := hrest h
      obtain ⟨hsign, hwhole, hfraction, hexponent⟩ := h
      have hskip := skipNumber_append hwhole hfraction hexponent hends
      simp only [List.mem_cons, List.not_mem_nil, or_false] at hsign
      rcases hsign with rfl | rfl
      · obtain ⟨c, more, rfl, hc⟩ := hwhole.1.exists_cons
        have hne : ∀ b : Char, b.isDigit = false → c ≠ b := fun b hb heq => by
          rw [heq, hb] at hc
          cases hc
        refine ⟨c, _, rfl, isBlank_of_isDigit hc, hne _ rfl, hne _ rfl, ?_⟩
        rw [skipScalar, if_neg (hne 'n' rfl), if_neg (hne 't' rfl), if_neg (hne 'f' rfl),
          if_neg (hne '-' rfl), if_pos hc]
        simpa using hskip
      · refine ⟨'-', _, rfl, by decide, by decide, by decide, ?_⟩
        rw [skipScalar, if_neg (by decide), if_neg (by decide), if_neg (by decide), if_pos rfl]
        simpa using hskip

/-! ## Values are skipped -/

theorem skipOpen_scalar {w v rest : List Char} (hw : AllBlank w) (hv : ScalarText v)
    (hrest : NumberText v → EndsNumber rest) (fuel : Nat) (frames : List Frame) :
    skipOpen (fuel + 1) frames (w ++ (v ++ rest)) = skipAfter fuel true frames rest := by
  obtain ⟨c, more, rfl, hblank, hlist, hobject, hskip⟩ := skipScalar_append hv hrest
  rw [skipOpen, skipBlanks_append hw, List.cons_append, skipBlanks_cons hblank]
  simp only [if_neg hlist, if_neg hobject, hskip]
  rfl

theorem skipOpen_opening {w : List Char} (hw : AllBlank w) (frame : Frame) (fuel : Nat)
    (frames : List Frame) (rest : List Char) :
    skipOpen (fuel + 1) frames (w ++ frame.opening :: rest) =
      skipAfter fuel false (frame :: frames) rest := by
  rw [skipOpen, skipBlanks_append hw]
  cases frame with
  | list => rw [Frame.opening, skipBlanks_cons (by decide)]; rfl
  | object => rw [Frame.opening, skipBlanks_cons (by decide)]; rfl

theorem skipAfter_close {w : List Char} (hw : AllBlank w) (frame : Frame) (fuel : Nat)
    (comma : Bool) (outer : List Frame) (rest : List Char) :
    skipAfter (fuel + 1) comma (frame :: outer) (w ++ frame.close :: rest) =
      skipAfter fuel true outer rest := by
  rw [skipAfter, skipBlanks_append hw, skipBlanks_cons (by cases frame <;> decide)]
  exact if_pos rfl

theorem skipAfter_comma {w : List Char} (hw : AllBlank w) (frame : Frame) (fuel : Nat)
    (outer : List Frame) (rest : List Char) :
    skipAfter (fuel + 1) true (frame :: outer) (w ++ ',' :: rest) =
      skipKey frame rest >>= skipOpen fuel (frame :: outer) := by
  rw [skipAfter, skipBlanks_append hw, skipBlanks_cons (by decide)]
  simp only [if_neg (show ',' ≠ frame.close by cases frame <;> decide)]
  rfl

/-- A key and its colon are skipped up to the value, give or take blanks. -/
theorem skipKey_append {frame : Frame} {w label w' : List Char} (hw : AllBlank w)
    (hlabel : LabelText frame label) (hw' : AllBlank w') (rest : List Char) :
    ∃ w'', AllBlank w'' ∧ skipKey frame (w ++ (label ++ (w' ++ rest))) = .ok (w'' ++ rest) := by
  cases hlabel with
  | item =>
      refine ⟨w ++ w', hw.append hw', ?_⟩
      rw [List.nil_append, List.append_assoc]
      rfl
  | @key body v hbody hv =>
      refine ⟨w', hw', ?_⟩
      rw [List.cons_append, skipKey, skipBlanks_append hw, skipBlanks_cons (by decide)]
      simp only [List.append_assoc, List.cons_append, List.nil_append]
      refine Except.bind_eq_ok.mpr ⟨_, skipString_append hbody _, ?_⟩
      exact readColon_append hv _

/-- An element without the blanks in front is one too, and nothing is closed there. -/
theorem skipBlanks_element {frame : Frame} {w label w' v : List Char} (hw : AllBlank w)
    (hlabel : LabelText frame label) (hw' : AllBlank w') (hv : ValueText v) (rest : List Char) :
    ∃ w'' c more, AllBlank w'' ∧ c ≠ frame.close ∧
      skipBlanks (w ++ (label ++ (w' ++ (v ++ rest)))) = c :: more ∧
      c :: more = [] ++ (label ++ (w'' ++ (v ++ rest))) := by
  rw [skipBlanks_append hw]
  cases hlabel with
  | item =>
      obtain ⟨c, more, rfl, hc⟩ := hv.exists_cons
      refine ⟨[], c, more ++ rest, .nil, hc.2.2.1, ?_, rfl⟩
      rw [List.nil_append, skipBlanks_append hw', List.cons_append, skipBlanks_cons hc.1]
  | @key body v' _ _ =>
      refine ⟨w', '"', body ++ '"' :: (v' ++ [':']) ++ (w' ++ (v ++ rest)), hw', by decide, ?_, rfl⟩
      rw [List.cons_append, skipBlanks_cons (by decide)]

mutual

/-- After a round or two for each character of a value, the skipper is behind it. -/
theorem skipOpen_append : ∀ {v : List Char}, ValueText v →
    ∃ rounds ≤ 2 * v.length, ∀ (fuel : Nat) (frames : List Frame) (w rest : List Char),
      AllBlank w → (NumberText v → EndsNumber rest) →
        skipOpen (fuel + rounds) frames (w ++ (v ++ rest)) = skipAfter fuel true frames rest
  | v, .scalar hv => by
      obtain ⟨c, more, rfl, -⟩ := hv.exists_cons
      refine ⟨1, by simp only [List.length_cons]; omega, fun fuel frames w rest hw hrest => ?_⟩
      exact skipOpen_scalar hw hv hrest fuel frames
  | _, @ValueText.empty w' frame hw' => by
      refine ⟨2, by simp only [List.length_cons]; omega, fun fuel frames w rest hw _ => ?_⟩
      rw [List.cons_append, List.append_assoc, skipOpen_opening hw]
      exact skipAfter_close hw' frame fuel false frames rest
  | _, .filled frame helements => by
      obtain ⟨rounds, hrounds, hskip⟩ := skipAfter_elements helements
      refine ⟨rounds + 2, by simp only [List.length_cons]; omega,
        fun fuel frames w rest hw _ => ?_⟩
      rw [List.cons_append, show fuel + (rounds + 2) = fuel + (rounds + 1) + 1 by omega,
        skipOpen_opening hw]
      exact (hskip fuel frames rest).2

/-- The same of the elements of what was opened, from behind a comma and from behind the opening. -/
theorem skipAfter_elements : ∀ {frame : Frame} {cs : List Char}, ElementsText frame cs →
    ∃ rounds ≤ 2 * cs.length, ∀ (fuel : Nat) (outer : List Frame) (rest : List Char),
      (skipKey frame (cs ++ rest) >>= skipOpen (fuel + rounds) (frame :: outer)) =
          skipAfter fuel true outer rest ∧
        skipAfter (fuel + (rounds + 1)) false (frame :: outer) (cs ++ rest) =
          skipAfter fuel true outer rest
  | frame, _, @ElementsText.mk _ w label w' v tail hw hlabel hw' hv htail => by
      obtain ⟨rounds, hrounds, hvalue⟩ := skipOpen_append hv
      obtain ⟨rounds', hrounds', hbehind⟩ := skipAfter_tail htail
      -- From behind a comma the blanks in front are still there, from behind the opening they are not.
      have hkey : ∀ {w w' : List Char}, AllBlank w → AllBlank w' →
          ∀ (fuel : Nat) (outer : List Frame) (rest : List Char),
            (skipKey frame (w ++ (label ++ (w' ++ (v ++ (tail ++ rest))))) >>=
              skipOpen (fuel + rounds' + rounds) (frame :: outer)) =
                skipAfter fuel true outer rest := by
        intro w w' hw hw' fuel outer rest
        obtain ⟨w'', hw'', hskip⟩ := skipKey_append hw hlabel hw' (v ++ (tail ++ rest))
        rw [hskip]
        show skipOpen (fuel + rounds' + rounds) (frame :: outer) (w'' ++ (v ++ (tail ++ rest))) = _
        rw [hvalue _ _ w'' _ hw'' fun _ => htail.endsNumber rest]
        exact hbehind fuel outer rest
      refine ⟨rounds' + rounds, by simp only [List.length_append]; omega,
        fun fuel outer rest => ?_⟩
      simp only [List.append_assoc]
      constructor
      · rw [← Nat.add_assoc]
        exact hkey hw hw' fuel outer rest
      · obtain ⟨w'', c, more, hw'', hc, hskip, heq⟩ :=
          skipBlanks_element hw hlabel hw' hv (tail ++ rest)
        rw [show fuel + (rounds' + rounds + 1) = fuel + rounds' + rounds + 1 by omega, skipAfter,
          hskip]
        simp only [if_neg hc, heq]
        exact hkey .nil hw'' fuel outer rest

theorem skipAfter_tail : ∀ {frame : Frame} {tail : List Char}, TailText frame tail →
    ∃ rounds ≤ 2 * tail.length, ∀ (fuel : Nat) (outer : List Frame) (rest : List Char),
      skipAfter (fuel + rounds) true (frame :: outer) (tail ++ rest) =
        skipAfter fuel true outer rest
  | frame, _, .close hw => by
      refine ⟨1, by simp only [List.length_append, List.length_singleton]; omega,
        fun fuel outer rest => ?_⟩
      rw [List.append_assoc]
      exact skipAfter_close hw frame fuel true outer rest
  | frame, _, .comma hw helements => by
      obtain ⟨rounds, hrounds, hskip⟩ := skipAfter_elements helements
      refine ⟨rounds + 1, by simp only [List.length_append, List.length_cons]; omega,
        fun fuel outer rest => ?_⟩
      rw [List.append_assoc, ← Nat.add_assoc, List.cons_append, skipAfter_comma hw]
      exact (hskip fuel outer rest).1

end

/-- A value is skipped, whatever follows. -/
theorem skipValue_append {w v rest : List Char} (hw : AllBlank w) (hv : ValueText v)
    (hrest : NumberText v → EndsNumber rest) : skipValue (w ++ (v ++ rest)) = .ok rest := by
  obtain ⟨rounds, hrounds, hskip⟩ := skipOpen_append hv
  have hfuel : rounds ≤ 2 * (w ++ (v ++ rest)).length + 2 := by
    simp only [List.length_append]
    omega
  rw [skipValue, ← Nat.sub_add_cancel hfuel, hskip _ _ _ _ hw hrest, skipAfter]

end Rollup.Json
