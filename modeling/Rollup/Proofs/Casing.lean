import Rollup.Proofs.Text
import Rollup.Text.Casing

/-!
# What lowercase leaves alone

Lowercase takes each character to its small letter, or to itself. The small
letters begin at U+0061, and every run of the table leads there or behind. So no
character below the capitals comes out of a letter, and none is lost.

No run leads to a letter that a run takes away, nor to the dotted capital I or
to a blank. That is a look at each two runs of the table, and it is what makes
lowercase settle: the pieces that a text is put together from, whichever form of
the sigma they are, hold characters that are left alone wherever they stand. So
lowercase of a lowercase text is that text, and its ends are blank only where
the ends of the text were.

The sigma and the dotted capital I, which have rules of their own, are not among
the first 128 characters. A text of those, without capitals and without blanks,
is in its normal form.
-/

namespace Rollup.Text

/-! ## Runs of the table -/

/-- A run takes a code point away. -/
def CaseRun.Moves (run : CaseRun) (n : Nat) : Prop :=
  run.first ≤ n ∧ n ≤ run.last ∧ (n - run.first) % run.stride = 0

/-- The small letter that a run leads to. -/
def CaseRun.small (run : CaseRun) (n : Nat) : Nat := (n + run.shift).toNat

/-- The runs are passed over up to the one that a code point lies in, which moves it or not. -/
theorem lowerCode_cases (runs : List CaseRun) (n : Nat) :
    lowerCode runs n = n ∨ ∃ run ∈ runs, run.Moves n ∧ lowerCode runs n = run.small n := by
  induction runs with
  | nil => exact Or.inl rfl
  | cons run rest ih =>
      rw [lowerCode]
      split
      · exact Or.inl rfl
      split
      · split
        · exact Or.inr ⟨run, List.mem_cons_self, ⟨by omega, by omega, by omega⟩, rfl⟩
        · exact Or.inl rfl
      · rcases ih with hsame | ⟨other, hmem, hmoved⟩
        · exact Or.inl hsame
        · exact Or.inr ⟨other, List.mem_cons_of_mem _ hmem, hmoved⟩

theorem lowerCode_of_forall_not {runs : List CaseRun} {n : Nat}
    (h : ∀ run ∈ runs, ¬ run.Moves n) : lowerCode runs n = n := by
  rcases lowerCode_cases runs n with hsame | ⟨run, hmem, hmoves, -⟩
  · exact hsame
  · exact absurd hmoves (h run hmem)

theorem le_first_add_shift : ∀ run ∈ lowercaseRuns, (0x61 : Int) ≤ run.first + run.shift := by
  decide +kernel

theorem lowerCode_lowercaseRuns (n : Nat) :
    lowerCode lowercaseRuns n = n ∨ 0x61 ≤ lowerCode lowercaseRuns n := by
  rcases lowerCode_cases lowercaseRuns n with hsame | ⟨run, hmem, ⟨hfirst, -, -⟩, heq⟩
  · exact Or.inl hsame
  · have hsmall := le_first_add_shift run hmem
    rw [CaseRun.small] at heq
    omega

/-- The small letters of a run, or its only one, lie beside another run, or between the letters that
it takes if it takes every second one. -/
def CaseRun.avoids (run other : CaseRun) : Bool :=
  Nat.blt (run.small run.last) other.first || Nat.blt other.last (run.small run.first) ||
    ((Nat.beq run.stride 2 || Nat.beq run.first run.last) && Nat.beq other.stride 2 &&
      Nat.beq ((run.small run.first + other.first) % 2) 1)

theorem CaseRun.not_moves_of_avoids {run other : CaseRun} (h : run.avoids other = true)
    (hpos : (0 : Int) ≤ run.first + run.shift) {n : Nat} (hmoves : run.Moves n) :
    ¬ other.Moves (run.small n) := by
  rintro ⟨hfirst, hlast, hstride⟩
  obtain ⟨hn, hn', hnstride⟩ := hmoves
  simp only [avoids, Bool.or_eq_true, Bool.and_eq_true, Nat.blt_eq, Nat.beq_eq, small] at *
  rcases h with (hbelow | habove) | ⟨⟨hsteps, hsecond⟩, hodd⟩
  · omega
  · omega
  · rw [hsecond] at hstride
    rcases hsteps with hsteps | hone
    · rw [hsteps] at hnstride
      omega
    · omega

/-- The look at each two runs. -/
theorem all_avoid :
    (lowercaseRuns.all fun run => lowercaseRuns.all run.avoids) = true := by
  decide +kernel

/-- A small letter has no small letter of its own. -/
theorem lowerCode_lowerCode (n : Nat) :
    lowerCode lowercaseRuns (lowerCode lowercaseRuns n) = lowerCode lowercaseRuns n := by
  rcases lowerCode_cases lowercaseRuns n with hsame | ⟨run, hmem, hmoves, heq⟩
  · rw [hsame, hsame]
  · rw [heq]
    refine lowerCode_of_forall_not fun other hother => ?_
    have havoid := List.all_eq_true.mp (List.all_eq_true.mp all_avoid run hmem) other hother
    exact CaseRun.not_moves_of_avoids havoid
      (Int.le_trans (by decide) (le_first_add_shift run hmem)) hmoves

/-- The small letters of a run are in no range of a table. -/
def CaseRun.apart (table : CharTable) (run : CaseRun) : Bool :=
  table.all fun range =>
    Nat.blt (run.small run.last) range.1 || Nat.blt range.2 (run.small run.first)

/-- What lowercase leads into such a table was there before. -/
theorem lowerCode_of_containsCode {table : CharTable}
    (hapart : lowercaseRuns.all (CaseRun.apart table) = true) {n : Nat}
    (h : table.containsCode (lowerCode lowercaseRuns n) = true) : lowerCode lowercaseRuns n = n := by
  rcases lowerCode_cases lowercaseRuns n with hsame | ⟨run, hmem, ⟨hfirst, hlast, -⟩, heq⟩
  · exact hsame
  · obtain ⟨range, hrange, hlow, hhigh⟩ := exists_range_of_containsCode h
    have hbeside := List.all_eq_true.mp (List.all_eq_true.mp hapart run hmem) range hrange
    simp only [Bool.or_eq_true, Nat.blt_eq, CaseRun.small] at hbeside heq
    omega

/-- Below U+00C0 only the 26 capitals have small letters. -/
theorem lowerCode_of_lt {n : Nat} (h : n < 0xC0) (hcapital : n < 0x41 ∨ 0x5A < n) :
    lowerCode lowercaseRuns n = n := by
  rw [lowercaseRuns, lowerCode]
  rcases hcapital with hbelow | habove
  · exact if_pos hbelow
  · rw [if_neg (Nat.not_lt.mpr (Nat.le_trans (by decide) habove)), if_neg (Nat.not_le.mpr habove),
      lowerCode]
    exact if_pos h

theorem lowerChar_of_lt {c : Char} (h : c.toNat < 0xC0)
    (hcapital : c.toNat < 0x41 ∨ 0x5A < c.toNat) : lowerChar c = [c] := by
  have hne : c ≠ 'İ' := by
    rintro rfl
    exact absurd h (by decide)
  rw [lowerChar, if_neg hne, lowerCode_of_lt h hcapital, Char.ofNat_toNat]

/-! ## What a text is put together from -/

variable {c d : Char} {before cs rest : List Char}

/-- What a character becomes in its place. -/
def lowerIn (before : List Char) (c : Char) (rest : List Char) : List Char :=
  if c = 'Σ' then [if sigmaIsFinal before rest then 'ς' else 'σ'] else lowerChar c

theorem lowerAfter_cons (before : List Char) (c : Char) (rest : List Char) :
    lowerAfter before (c :: rest) = lowerIn before c rest ++ lowerAfter (c :: before) rest := rfl

/-- A sigma becomes one of two letters, and everything else what it becomes alone. -/
theorem lowerIn_cases (before : List Char) (c : Char) (rest : List Char) :
    lowerIn before c rest = ['ς'] ∨ lowerIn before c rest = ['σ'] ∨
      lowerIn before c rest = lowerChar c := by
  rw [lowerIn]
  split
  · cases sigmaIsFinal before rest
    · exact Or.inr (Or.inl rfl)
    · exact Or.inl rfl
  · exact Or.inr (Or.inr rfl)

theorem lowerIn_ne_nil (before : List Char) (c : Char) (rest : List Char) :
    lowerIn before c rest ≠ [] := by
  rcases lowerIn_cases before c rest with h | h | h
  · simp [h]
  · simp [h]
  · rw [h, lowerChar]
    split <;> simp

theorem mem_lowerIn (h : d ∈ lowerIn before c rest) : d = 'ς' ∨ d = 'σ' ∨ d ∈ lowerChar c := by
  rcases lowerIn_cases before c rest with heq | heq | heq
  · exact Or.inl (List.mem_singleton.mp (heq ▸ h))
  · exact Or.inr (Or.inl (List.mem_singleton.mp (heq ▸ h)))
  · exact Or.inr (Or.inr (heq ▸ h))

theorem lowercase_eq_nil : lowercase cs = [] ↔ cs = [] := by
  cases cs with
  | nil => exact iff_of_true lowercase_nil rfl
  | cons c rest =>
      refine iff_of_false ?_ (List.cons_ne_nil c rest)
      rw [lowercase, lowerAfter_cons]
      exact List.append_ne_nil_of_left_ne_nil (lowerIn_ne_nil [] c rest) _

/-! ## Characters below the capitals -/

theorem not_mem_of_all_le (hlow : c.toNat < 0x41) {cs : List Char}
    (h : (cs.all fun x => 0x41 ≤ x.toNat) = true) : c ∉ cs :=
  fun hmem => Nat.not_lt.mpr (of_decide_eq_true (List.all_eq_true.mp h c hmem)) hlow

/-- A code that no character has stands for the character 0. -/
theorem toNat_ofNat_or (n : Nat) : (Char.ofNat n).toNat = n ∨ (Char.ofNat n).toNat = 0 := by
  by_cases hvalid : n.isValidChar
  · left
    rw [Char.ofNat, dif_pos hvalid]
    rfl
  · right
    rw [Char.ofNat, dif_neg hvalid]
    rfl

theorem mem_lowerChar (hpos : 0 < c.toNat) (hlow : c.toNat < 0x41) {d : Char} :
    c ∈ lowerChar d ↔ c = d := by
  rw [lowerChar]
  split
  · next hdotted =>
      rw [hdotted, ← List.mem_singleton]
      exact iff_of_false (not_mem_of_all_le hlow (by decide)) (not_mem_of_all_le hlow (by decide))
  · rw [List.mem_singleton]
    constructor
    · intro heq
      rcases lowerCode_lowercaseRuns d.toNat with hsame | hsmall
      · rwa [hsame, Char.ofNat_toNat] at heq
      · -- A small letter stands too high, and so does all that no character has.
        have hcode := toNat_ofNat_or (lowerCode lowercaseRuns d.toNat)
        rw [← heq] at hcode
        omega
    · rintro rfl
      rw [lowerCode_of_lt (by omega) (Or.inl hlow), Char.ofNat_toNat]

/-- Lowercase neither adds nor takes away a character below the capitals. -/
theorem mem_lowerAfter (hpos : 0 < c.toNat) (hlow : c.toNat < 0x41) {before cs : List Char} :
    c ∈ lowerAfter before cs ↔ c ∈ cs := by
  induction cs generalizing before with
  | nil => rfl
  | cons d rest ih =>
      rw [lowerAfter, List.mem_append, ih, List.mem_cons]
      refine or_congr_left ?_
      split
      · next hsigma =>
          have hsmall : ∀ isFinal : Bool,
              ([if isFinal then 'ς' else 'σ'].all fun x => 0x41 ≤ x.toNat) = true := by decide
          refine iff_of_false (not_mem_of_all_le hlow (hsmall _)) fun heq => ?_
          rw [heq, hsigma] at hlow
          exact absurd hlow (by decide)
      · exact mem_lowerChar hpos hlow

theorem mem_lowercase (hpos : 0 < c.toNat) (hlow : c.toNat < 0x41) {cs : List Char} :
    c ∈ lowercase cs ↔ c ∈ cs := mem_lowerAfter hpos hlow

/-! ## Small letters -/

/-- A character that is left alone wherever it stands. -/
structure IsSmall (c : Char) : Prop where
  ne_sigma : c ≠ 'Σ'
  lowerChar_eq : lowerChar c = [c]

theorem lowerAfter_of_small {cs : List Char} (h : ∀ c ∈ cs, IsSmall c) (before : List Char) :
    lowerAfter before cs = cs := by
  induction cs generalizing before with
  | nil => rfl
  | cons c rest ih =>
      have hc := h c List.mem_cons_self
      rw [lowerAfter, if_neg hc.ne_sigma, hc.lowerChar_eq,
        ih fun d hd => h d (List.mem_cons_of_mem c hd)]
      rfl

theorem isSmall_of_lowerCode {c : Char} (hne : c ≠ 'İ')
    (h : lowerCode lowercaseRuns c.toNat = c.toNat) : IsSmall c := by
  refine ⟨?_, by rw [lowerChar, if_neg hne, h, Char.ofNat_toNat]⟩
  rintro rfl
  exact absurd h (by decide +kernel)

theorem isSmall_ofNat_lowerCode {c : Char} (hne : c ≠ 'İ') :
    IsSmall (Char.ofNat (lowerCode lowercaseRuns c.toNat)) := by
  rcases toNat_ofNat_or (lowerCode lowercaseRuns c.toNat) with hcode | hzero
  · refine isSmall_of_lowerCode ?_ (by rw [hcode, lowerCode_lowerCode])
    intro hdotted
    rw [hdotted] at hcode
    have hsame : lowerCode lowercaseRuns c.toNat = c.toNat :=
      @lowerCode_of_containsCode [(0x130, 0x130)] (by decide +kernel) c.toNat
        (by rw [← hcode]; decide)
    rw [hsame] at hcode
    exact hne (Char.toNat_inj.mp hcode.symm)
  · have hlow : lowerCode lowercaseRuns 0 = 0 := lowerCode_of_lt (by decide) (Or.inl (by decide))
    refine isSmall_of_lowerCode ?_ (by rw [hzero, hlow])
    intro hdotted
    rw [hdotted] at hzero
    exact absurd hzero (by decide)

theorem isSmall_of_mem_lowerChar {c d : Char} (h : d ∈ lowerChar c) : IsSmall d := by
  rw [lowerChar] at h
  split at h
  · rcases List.mem_pair.mp h with rfl | rfl
    · exact isSmall_of_lowerCode (by decide) (by decide +kernel)
    · exact isSmall_of_lowerCode (by decide) (by decide +kernel)
  · next hne =>
      rw [List.mem_singleton.mp h]
      exact isSmall_ofNat_lowerCode hne

theorem isBlank_of_mem_lowerChar {c d : Char} (hc : isBlank c = false) (h : d ∈ lowerChar c) :
    isBlank d = false := by
  rw [lowerChar] at h
  split at h
  · rcases List.mem_pair.mp h with rfl | rfl
    · decide
    · decide
  · rw [List.mem_singleton.mp h, ← Bool.not_eq_true]
    intro hblank
    rw [isBlank, CharTable.contains] at hblank
    rcases toNat_ofNat_or (lowerCode lowercaseRuns c.toNat) with hcode | hzero
    · rw [hcode] at hblank
      rw [lowerCode_of_containsCode (by decide +kernel) hblank] at hblank
      exact Bool.false_ne_true (hc.symm.trans hblank)
    · rw [hzero] at hblank
      exact absurd hblank (by decide)

theorem isSmall_of_mem_lowerIn (h : d ∈ lowerIn before c rest) : IsSmall d := by
  rcases mem_lowerIn h with rfl | rfl | h
  · exact isSmall_of_lowerCode (by decide) (by decide +kernel)
  · exact isSmall_of_lowerCode (by decide) (by decide +kernel)
  · exact isSmall_of_mem_lowerChar h

theorem isBlank_of_mem_lowerIn (hc : isBlank c = false) (h : d ∈ lowerIn before c rest) :
    isBlank d = false := by
  rcases mem_lowerIn h with rfl | rfl | h
  · decide
  · decide
  · exact isBlank_of_mem_lowerChar hc h

theorem isSmall_of_mem_lowerAfter (h : d ∈ lowerAfter before cs) : IsSmall d := by
  induction cs generalizing before with
  | nil => cases h
  | cons c rest ih =>
      rw [lowerAfter_cons, List.mem_append] at h
      rcases h with h | h
      · exact isSmall_of_mem_lowerIn h
      · exact ih h

/-- Lowercase settles at once. -/
theorem lowercase_lowercase (cs : List Char) : lowercase (lowercase cs) = lowercase cs :=
  lowerAfter_of_small (fun _ hc => isSmall_of_mem_lowerAfter hc) []

/-- Lowercase ends with what the last character becomes. -/
theorem exists_lowerAfter_concat (before cs : List Char) (c : Char) :
    ∃ front, lowerAfter before (cs ++ [c]) = front ++ lowerIn (cs.reverse ++ before) c [] := by
  induction cs generalizing before with
  | nil => exact ⟨[], List.append_nil _⟩
  | cons first rest ih =>
      obtain ⟨front, hfront⟩ := ih (first :: before)
      refine ⟨lowerIn before first (rest ++ [c]) ++ front, ?_⟩
      rw [List.cons_append, lowerAfter_cons, hfront, List.reverse_cons, List.append_assoc,
        List.append_assoc, List.singleton_append]

/-- Lowercase brings no blank to the ends of a text. -/
theorem trim_lowercase (h : trim cs = cs) : trim (lowercase cs) = lowercase cs := by
  have hfirst : ∀ c ∈ cs.head?, isBlank c = false := fun c hc => isBlank_head_trim (h.symm ▸ hc)
  have hlast : ∀ c ∈ cs.getLast?, isBlank c = false :=
    fun c hc => isBlank_getLast_trim (h.symm ▸ hc)
  refine trim_of_ends (fun d hd => ?_) (fun d hd => ?_)
  · cases cs with
    | nil => cases hd
    | cons c rest =>
        rw [lowercase, lowerAfter_cons, List.head?_append_of_ne_nil _ (lowerIn_ne_nil _ _ _)] at hd
        exact isBlank_of_mem_lowerIn (hfirst c rfl) (List.mem_of_mem_head? hd)
  · rcases List.eq_nil_or_concat cs with rfl | ⟨front, c, rfl⟩
    · cases hd
    · rw [List.concat_eq_append] at hd hlast
      obtain ⟨lowered, hlowered⟩ := exists_lowerAfter_concat [] front c
      rw [lowercase, hlowered, List.getLast?_append_of_ne_nil _ (lowerIn_ne_nil _ _ _)] at hd
      exact isBlank_of_mem_lowerIn (hlast c (by simp)) (List.mem_of_mem_getLast? hd)

/-! ## Normal forms -/

/-- A character of a normal text: one of the first 128, not blank, not a capital. -/
structure PlainChar (c : Char) : Prop where
  lt : c.toNat < 0x80
  not_blank : 0x20 < c.toNat
  not_capital : c.toNat < 0x41 ∨ 0x5A < c.toNat

instance : DecidablePred PlainChar := fun c =>
  decidable_of_iff (c.toNat < 0x80 ∧ 0x20 < c.toNat ∧ (c.toNat < 0x41 ∨ 0x5A < c.toNat))
    ⟨fun ⟨hlt, hblank, hcapital⟩ => ⟨hlt, hblank, hcapital⟩,
      fun h => ⟨h.lt, h.not_blank, h.not_capital⟩⟩

theorem PlainChar.of_isDigit (h : c.isDigit = true) : PlainChar c := by
  obtain ⟨hlow, hhigh⟩ := Char.isDigit_iff_toNat.mp h
  exact ⟨Nat.lt_of_le_of_lt hhigh (by decide), Nat.lt_of_lt_of_le (by decide) hlow,
    Or.inl (Nat.lt_of_le_of_lt hhigh (by decide))⟩

theorem PlainChar.isSmall (h : PlainChar c) : IsSmall c := by
  refine ⟨?_, lowerChar_of_lt (Nat.lt_trans h.lt (by decide)) h.not_capital⟩
  rintro rfl
  exact absurd h.lt (by decide)

theorem PlainChar.isBlank_eq (h : PlainChar c) : isBlank c = false := by
  have hlow := h.not_blank
  rw [Bool.eq_false_iff, Ne, isBlank_ascii_iff c h.lt]
  omega

theorem lowercase_trim_of_plain {cs : List Char} (h : ∀ c ∈ cs, PlainChar c) :
    lowercase (trim cs) = cs := by
  rw [trim_of_forall_not fun c hc => (h c hc).isBlank_eq]
  exact lowerAfter_of_small (fun c hc => (h c hc).isSmall) []

end Rollup.Text
