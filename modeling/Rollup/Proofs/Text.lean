import Mathlib.Data.List.Basic
import Mathlib.Data.List.TakeWhile
import Rollup.Text.Blank
import Rollup.Text.Split
import Rollup.Text.Word

/-!
# Blanks, trims, cuts and padded numbers

What a trim takes away is blank, and it stops at the first character that is
not. A text without blanks is therefore what a trim finds between blanks. Word
characters are never blank, by a look at the few blanks there are, so this
holds for every name.

A cut at a character is the standard library's `List.splitOn`, which comes
with its inverse. Zeros in front of a number do not change what its digits
spell.
-/

namespace Rollup.Text

/-! ## Blanks -/

/-- The code points of a table, one by one. -/
def codes (table : CharTable) : List Nat :=
  table.flatMap fun range => List.range' range.1 (range.2 + 1 - range.1)

theorem exists_range_of_containsCode {table : CharTable} {n : Nat}
    (h : table.containsCode n = true) : ∃ range ∈ table, range.1 ≤ n ∧ n ≤ range.2 := by
  induction table with
  | nil => cases h
  | cons range rest ih =>
      obtain ⟨low, high⟩ := range
      rw [CharTable.containsCode] at h
      split at h
      · cases h
      · next hlow =>
          split at h
          · next hhigh => exact ⟨_, List.mem_cons_self, Nat.not_lt.mp hlow, hhigh⟩
          · obtain ⟨range, hmem, hrange⟩ := ih h
            exact ⟨range, List.mem_cons_of_mem _ hmem, hrange⟩

theorem mem_codes_of_containsCode {table : CharTable} {n : Nat}
    (h : table.containsCode n = true) : n ∈ codes table := by
  obtain ⟨range, hmem, hlow, hhigh⟩ := exists_range_of_containsCode h
  exact List.mem_flatMap.mpr ⟨range, hmem, List.mem_range'_1.mpr ⟨hlow, by omega⟩⟩

/-- No blank stands in a word: none of the 25 is in the table of words. -/
theorem isWord_of_isBlank {c : Char} (h : isBlank c = true) : isWord c = false := by
  have hall : ∀ n ∈ codes blankTable, CharTable.containsCode wordTable n = false := by
    decide +kernel
  exact hall _ (mem_codes_of_containsCode h)

theorem isBlank_of_isWord {c : Char} (h : isWord c = true) : isBlank c = false := by
  cases hblank : isBlank c with
  | false => rfl
  | true => rw [isWord_of_isBlank hblank] at h; cases h

theorem allBlank_iff {cs : List Char} :
    allBlank cs = true ↔ ∀ c ∈ cs, isBlank c = true := List.all_eq_true

theorem allBlank_nil : allBlank [] = true := rfl

theorem allBlank_append {cs ds : List Char} :
    allBlank (cs ++ ds) = true ↔ allBlank cs = true ∧ allBlank ds = true := by
  rw [allBlank, List.all_append, Bool.and_eq_true]
  rfl

theorem not_mem_of_allBlank {c : Char} (hc : isBlank c = false) {cs : List Char}
    (h : allBlank cs = true) : c ∉ cs := by
  intro hmem
  rw [allBlank_iff.mp h c hmem] at hc
  cases hc

/-! ## Trimming -/

theorem trimStart_spec (cs : List Char) :
    ∃ w, allBlank w = true ∧ cs = w ++ trimStart cs :=
  ⟨cs.takeWhile isBlank, List.all_takeWhile, List.takeWhile_append_dropWhile.symm⟩

theorem trimEnd_spec (cs : List Char) :
    ∃ w, allBlank w = true ∧ cs = trimEnd cs ++ w := by
  obtain ⟨w, hw, hcs⟩ := trimStart_spec cs.reverse
  refine ⟨w.reverse, ?_, ?_⟩
  · rw [allBlank, List.all_reverse]
    exact hw
  · rw [trimEnd, ← trimStart, ← List.reverse_append, ← hcs, List.reverse_reverse]

/-- A trim takes blanks away at both ends. -/
theorem trim_spec (cs : List Char) :
    ∃ w w', allBlank w = true ∧ allBlank w' = true ∧ cs = w ++ trim cs ++ w' := by
  obtain ⟨w, hw, hstart⟩ := trimStart_spec cs
  obtain ⟨w', hw', hend⟩ := trimEnd_spec (trimStart cs)
  refine ⟨w, w', hw, hw', ?_⟩
  rw [trim, List.append_assoc, ← hend, ← hstart]

theorem trimStart_append {w : List Char} (hw : allBlank w = true) (cs : List Char) :
    trimStart (w ++ cs) = trimStart cs :=
  List.dropWhile_append_of_pos (allBlank_iff.mp hw)

theorem trimEnd_append (cs : List Char) {w : List Char} (hw : allBlank w = true) :
    trimEnd (cs ++ w) = trimEnd cs := by
  have hrev : allBlank w.reverse = true := by rwa [allBlank, List.all_reverse]
  rw [trimEnd, List.reverse_append, ← trimStart, trimStart_append hrev, trimStart, ← trimEnd]

theorem trimStart_of_allBlank {cs : List Char} (h : allBlank cs = true) :
    trimStart cs = [] := List.dropWhile_eq_nil_iff.mpr (allBlank_iff.mp h)

theorem trimStart_cons {c : Char} (hc : isBlank c = false) (cs : List Char) :
    trimStart (c :: cs) = c :: cs := List.dropWhile_cons_of_neg (by simp [hc])

/-- A trim of the end does not reach over a character that is not blank. -/
theorem trimEnd_append_cons (cs : List Char) {c : Char} (hc : isBlank c = false)
    (ds : List Char) : trimEnd (cs ++ c :: ds) = cs ++ c :: trimEnd ds := by
  rw [trimEnd, trimEnd, List.reverse_append, List.reverse_cons, List.append_assoc,
    List.dropWhile_append]
  split
  · next hempty =>
      rw [List.isEmpty_iff.mp hempty, List.singleton_append,
        List.dropWhile_cons_of_neg (by simp [hc])]
      simp
  · simp

theorem trimEnd_cons {c : Char} (hc : isBlank c = false) (cs : List Char) :
    trimEnd (c :: cs) = c :: trimEnd cs := trimEnd_append_cons [] hc cs

theorem trimEnd_concat (cs : List Char) {c : Char} (hc : isBlank c = false) :
    trimEnd (cs ++ [c]) = cs ++ [c] := trimEnd_append_cons cs hc []

/-- A trim of the start stops in the first part, if that is not all blank. -/
theorem trimStart_append_of_not_allBlank {cs : List Char} (h : allBlank cs = false)
    (ds : List Char) : trimStart (cs ++ ds) = trimStart cs ++ ds := by
  rw [trimStart, List.dropWhile_append, if_neg]
  · rfl
  · intro hempty
    have hall := List.dropWhile_eq_nil_iff.mp (List.isEmpty_iff.mp hempty)
    rw [allBlank_iff.mpr hall] at h
    cases h

/-- Blanks around a text make no difference to a trim. -/
theorem trim_append_append {w w' : List Char} (hw : allBlank w = true) (hw' : allBlank w' = true)
    (cs : List Char) : trim (w ++ cs ++ w') = trim cs := by
  rw [trim, List.append_assoc, trimStart_append hw, trim]
  cases hblank : allBlank cs with
  | false => rw [trimStart_append_of_not_allBlank hblank, trimEnd_append _ hw']
  | true =>
      rw [trimStart_of_allBlank (allBlank_append.mpr ⟨hblank, hw'⟩), trimStart_of_allBlank hblank]

/-- A text is its own trim if it neither starts nor ends with a blank. -/
theorem trim_of_ends {cs : List Char} (hfirst : ∀ c ∈ cs.head?, isBlank c = false)
    (hlast : ∀ c ∈ cs.getLast?, isBlank c = false) : trim cs = cs := by
  cases cs with
  | nil => rfl
  | cons c cs =>
      obtain ⟨front, last, hcs⟩ := List.eq_nil_or_concat (c :: cs) |>.resolve_left (by simp)
      rw [List.concat_eq_append] at hcs
      rw [trim, trimStart_cons (hfirst c rfl), hcs, trimEnd_concat]
      exact hlast last (by rw [hcs]; simp)

/-- A text without blanks is its own trim. -/
theorem trim_of_forall_not {cs : List Char} (h : ∀ c ∈ cs, isBlank c = false) : trim cs = cs :=
  trim_of_ends (fun c hc => h c (List.mem_of_mem_head? hc))
    (fun c hc => h c (List.mem_of_mem_getLast? hc))

theorem isBlank_head_trim {cs : List Char} {c : Char} (h : c ∈ (trim cs).head?) :
    isBlank c = false := by
  cases hstart : trimStart cs with
  | nil => rw [trim, hstart] at h; cases h
  | cons first rest =>
      have hfirst : isBlank first = false := by
        have hhead := List.head?_dropWhile_not isBlank cs
        rw [← trimStart, hstart] at hhead
        simpa using hhead
      rw [trim, hstart, trimEnd_cons hfirst] at h
      cases h
      exact hfirst

theorem isBlank_getLast_trim {cs : List Char} {c : Char} (h : c ∈ (trim cs).getLast?) :
    isBlank c = false := by
  rw [trim, trimEnd, List.getLast?_reverse] at h
  have hhead := List.head?_dropWhile_not isBlank (trimStart cs).reverse
  rw [h] at hhead
  simpa using hhead

theorem trim_of_allBlank {cs : List Char} (h : allBlank cs = true) : trim cs = [] := by
  rw [trim, trimStart_of_allBlank h]
  rfl

theorem trim_eq_nil_iff {cs : List Char} : trim cs = [] ↔ allBlank cs = true := by
  refine ⟨fun h => ?_, trim_of_allBlank⟩
  obtain ⟨w, w', hw, hw', hcs⟩ := trim_spec cs
  rw [hcs, h, List.append_nil, allBlank_append]
  exact ⟨hw, hw'⟩

theorem trimString_eq_empty_iff {s : String} :
    trimString s = "" ↔ allBlank s.toList = true := by
  rw [trimString, String.ofList_eq_empty_iff, trim_eq_nil_iff]

theorem trim_trim (cs : List Char) : trim (trim cs) = trim cs := by
  obtain ⟨w, w', hw, hw', hcs⟩ := trim_spec cs
  have htrim := trim_append_append hw hw' (trim cs)
  rw [← hcs] at htrim
  exact htrim.symm

/-- What a trim takes away is blank, so all other characters stay. -/
theorem mem_trim {c : Char} (hc : isBlank c = false) {cs : List Char} : c ∈ trim cs ↔ c ∈ cs := by
  obtain ⟨w, w', hw, hw', hcs⟩ := trim_spec cs
  conv_rhs => rw [hcs]
  simp only [List.mem_append, not_mem_of_allBlank hc hw, not_mem_of_allBlank hc hw', false_or,
    or_false]

theorem trimString_trimString (s : String) : trimString (trimString s) = trimString s := by
  rw [trimString, trimString, String.toList_ofList, trim_trim]

theorem ne_empty_of_mem {c : Char} {s : String} (h : c ∈ s.toList) : s ≠ "" := by
  intro heq
  rw [heq] at h
  cases h

theorem mem_trimString {c : Char} (hc : isBlank c = false) {s : String} :
    c ∈ (trimString s).toList ↔ c ∈ s.toList := by
  rw [trimString, String.toList_ofList, mem_trim hc]

/-! ## Cuts -/

/-- The pieces between separators are those of the standard library. -/
theorem splitOn_eq_splitOn (sep : Char) (cs : List Char) :
    splitOn (· = sep) cs = cs.splitOn sep := by
  induction cs with
  | nil => rfl
  | cons c cs ih =>
      rw [splitOn, ih, List.splitOn_cons_eq_if_modifyHead]
      cases hpieces : cs.splitOn sep with
      | nil => exact absurd hpieces (List.splitOn_ne_nil sep cs)
      | cons piece pieces =>
          by_cases hc : c = sep
          · simp [hc]
          · simp [hc]

/-- Pieces without the separator are what a text of them, joined by it, is cut into. -/
theorem splitOn_intercalate {joint : String} {sep : Char} (hjoint : joint.toList = [sep])
    {pieces : List String} (hne : pieces ≠ []) (h : ∀ piece ∈ pieces, sep ∉ piece.toList) :
    (joint.intercalate pieces).toList.splitOn sep = pieces.map String.toList := by
  rw [String.toList_intercalate, hjoint]
  exact List.splitOn_intercalate sep (by simpa using h) (by simpa using hne)

/-- A run ends in front of a character of another kind, whatever follows. -/
theorem takeWhile_append_cons_of_neg {p : Char → Bool} {c : Char} (hc : p c = false)
    (cs rest : List Char) : (cs ++ c :: rest).takeWhile p = cs.takeWhile p := by
  induction cs with
  | nil => rw [List.nil_append, List.takeWhile_cons_of_neg (by simp [hc]), List.takeWhile_nil]
  | cons d cs ih => rw [List.cons_append, List.takeWhile_cons, List.takeWhile_cons, ih]

theorem dropWhile_append_cons_of_neg {p : Char → Bool} {c : Char} (hc : p c = false)
    (cs rest : List Char) : (cs ++ c :: rest).dropWhile p = cs.dropWhile p ++ c :: rest := by
  induction cs with
  | nil => rw [List.nil_append, List.dropWhile_cons_of_neg (by simp [hc]), List.dropWhile_nil,
      List.nil_append]
  | cons d cs ih =>
      rw [List.cons_append, List.dropWhile_cons, List.dropWhile_cons, ih]
      split
      · rfl
      · rfl

theorem ne_of_not_mem {c : Char} {cs : List Char} (h : c ∉ cs) :
    ∀ x ∈ cs, decide (x ≠ c) = true := by
  intro x hx
  exact decide_eq_true fun heq => h (heq ▸ hx)

theorem takeWhile_ne_of_not_mem {c : Char} {cs : List Char} (h : c ∉ cs) :
    cs.takeWhile (· ≠ c) = cs := List.takeWhile_eq_self_iff.mpr (ne_of_not_mem h)

theorem dropWhile_ne_of_not_mem {c : Char} {cs : List Char} (h : c ∉ cs) :
    cs.dropWhile (· ≠ c) = [] := List.dropWhile_eq_nil_iff.mpr (ne_of_not_mem h)

/-- The first `c` is where the text without it ends. -/
theorem takeWhile_ne_append_cons {c : Char} {front : List Char} (h : c ∉ front)
    (rest : List Char) : (front ++ c :: rest).takeWhile (· ≠ c) = front := by
  rw [takeWhile_append_cons_of_neg (by simp), takeWhile_ne_of_not_mem h]

theorem dropWhile_ne_append_cons {c : Char} {front : List Char} (h : c ∉ front)
    (rest : List Char) : (front ++ c :: rest).dropWhile (· ≠ c) = c :: rest := by
  rw [dropWhile_append_cons_of_neg (by simp), dropWhile_ne_of_not_mem h, List.nil_append]

/-- Two texts that start with characters of one kind have the same ones, if another kind follows. -/
theorem append_cons_inj_of_all {p : Char → Bool} {w w' rest rest' : List Char} {c c' : Char}
    (hw : ∀ x ∈ w, p x = true) (hw' : ∀ x ∈ w', p x = true) (hc : p c = false)
    (hc' : p c' = false) (h : w ++ c :: rest = w' ++ c' :: rest') :
    w = w' ∧ c :: rest = c' :: rest' := by
  have hfront := congrArg (List.takeWhile p) h
  rw [takeWhile_append_cons_of_neg hc, takeWhile_append_cons_of_neg hc',
    List.takeWhile_eq_self_iff.mpr hw, List.takeWhile_eq_self_iff.mpr hw'] at hfront
  subst hfront
  exact ⟨rfl, List.append_cancel_left h⟩

/-- The first separator cuts a text in one way. -/
theorem append_cons_inj_of_not_mem {c : Char} {a b x y : List Char} (ha : c ∉ a)
    (hb : c ∉ b) (h : a ++ c :: x = b ++ c :: y) : a = b ∧ x = y := by
  obtain ⟨hfront, hrest⟩ := append_cons_inj_of_all (ne_of_not_mem ha) (ne_of_not_mem hb)
    (decide_eq_false (not_not_intro rfl)) (decide_eq_false (not_not_intro rfl)) h
  exact ⟨hfront, (List.cons.inj hrest).2⟩

/-! ## Padded numbers -/

theorem ofDigitChars_padded (width n : Nat) : Nat.ofDigitChars 10 (padded width n) 0 = n := by
  rw [padded, Nat.ofDigitChars_append, Nat.ofDigitChars_replicate_zero, Nat.mul_zero,
    Nat.ofDigitChars_ten_toDigits]

theorem length_padded {width n : Nat} (hwidth : 0 < width) (h : n < Nat.pow 10 width) :
    (padded width n).length = width := by
  have hdigits := (Nat.length_toDigits_le_iff (by decide) hwidth).mpr h
  rw [padded, List.length_append, List.length_replicate]
  omega

theorem le_length_padded (width n : Nat) : width ≤ (padded width n).length := by
  rw [padded, List.length_append, List.length_replicate]
  omega

theorem isDigit_of_mem_padded {width n : Nat} {c : Char} (h : c ∈ padded width n) :
    c.isDigit = true := by
  rw [padded, List.mem_append] at h
  rcases h with h | h
  · rw [List.eq_of_mem_replicate h]
    decide
  · exact Nat.isDigit_of_mem_toDigits (by decide) (by decide) h

theorem padded_ne_nil (width n : Nat) : padded width n ≠ [] := by
  have hdigits := Nat.length_toDigits_pos (b := 10) (n := n)
  rw [padded]
  exact List.append_ne_nil_of_right_ne_nil _ (List.length_pos_iff.mp hdigits)

/-- Below a hundred, two digits are written. -/
theorem exists_padded_two {n : Nat} (h : n < 100) : ∃ a b, padded 2 n = [a, b] := by
  have hlength : (padded 2 n).length = 2 := length_padded (by decide) h
  exact List.length_eq_two.mp hlength

end Rollup.Text
