import Rollup.Breakdown.Basic
import Rollup.Proofs.Except
import Rollup.Proofs.Text

/-!
# What a breakdown looks like

The reader is a list of steps; the grammar here says which texts it takes. A
chain is made of field names with slashes between them and blanks around each,
and a report starts at the first brace of the text and ends with a closing
brace, before blanks.

A field name holds no slash, no brace and no blank. Cutting a chain at its
slashes and trimming the pieces therefore gives back the names it was put
together from, and every other text has a first piece that is no name. A text
falls in one of three cases: no brace stands in it, or a report does, or there
is a brace and the text does not end with a closing one. `parse` is computed
once for each case, and the theorem at the end only reads the cases off.

Blanks around a whole text are those of its first and last piece, or those
behind its report, so a trim of the text changes nothing about the breakdown.
-/

namespace Rollup.Breakdown

/-! ## Chains -/

/-- A field name between blanks. -/
def FieldText (piece : List Char) (field : String) : Prop :=
  isFieldName field.toList = true ∧ ∃ w w', Text.allBlank w = true ∧ Text.allBlank w' = true ∧
    piece = w ++ field.toList ++ w'

/-- Field names with slashes between them, each between blanks of its own. -/
inductive ChainText : List Char → List String → Prop
  | last {piece : List Char} {field : String} :
      FieldText piece field → ChainText piece [field]
  | more {piece rest : List Char} {field : String} {fields : List String} :
      FieldText piece field → ChainText rest fields →
        ChainText (piece ++ '/' :: rest) (field :: fields)

theorem isFieldChar_ascii {c : Char} (h : c.toNat < 0x80) (hc : isFieldChar c = true) :
    0x2D ≤ c.toNat ∧ c.toNat ≤ 0x7A ∧ c.toNat ≠ 0x2F := by
  simp only [isFieldChar, Bool.or_eq_true, decide_eq_true_eq] at hc
  rcases hc with (((hc | rfl) | rfl) | rfl) | rfl
  · have hword := (Text.isWord_ascii_iff c h).mp hc
    omega
  all_goals decide

theorem isBlank_of_isFieldChar {c : Char} (hc : isFieldChar c = true) :
    Text.isBlank c = false := by
  simp only [isFieldChar, Bool.or_eq_true, decide_eq_true_eq] at hc
  rcases hc with (((hc | rfl) | rfl) | rfl) | rfl
  · exact Text.isBlank_of_isWord hc
  all_goals decide

theorem isFieldName_iff {cs : List Char} :
    isFieldName cs = true ↔ cs ≠ [] ∧ ∀ c ∈ cs, isFieldChar c = true := by
  rw [isFieldName, Bool.and_eq_true, List.all_eq_true]
  simp

/-- A field name is what a trim of its piece leaves. -/
theorem fieldText_iff {piece : List Char} {field : String} :
    FieldText piece field ↔
      isFieldName (Text.trim piece) = true ∧ field = String.ofList (Text.trim piece) := by
  constructor
  · rintro ⟨hname, w, w', hw, hw', rfl⟩
    have hblank : ∀ c ∈ field.toList, Text.isBlank c = false :=
      fun c hc => isBlank_of_isFieldChar ((isFieldName_iff.mp hname).2 c hc)
    rw [Text.trim_append_append hw hw', Text.trim_of_forall_not hblank, String.ofList_toList]
    exact ⟨hname, rfl⟩
  · rintro ⟨hname, rfl⟩
    obtain ⟨w, w', hw, hw', hpiece⟩ := Text.trim_spec piece
    rw [FieldText, String.toList_ofList]
    exact ⟨hname, w, w', hw, hw', hpiece⟩

/-- No slash and no brace stands in a piece, for they are neither blank nor part of a name. -/
theorem FieldText.not_mem {piece : List Char} {field : String} (h : FieldText piece field)
    {c : Char} (hc : c = '/' ∨ c = '\x7b') : c ∉ piece := by
  obtain ⟨hname, w, w', hw, hw', rfl⟩ := h
  have hblank : Text.isBlank c = false := by
    rcases hc with rfl | rfl <;> decide
  have hfield : c ∉ field.toList := by
    intro hmem
    have hchar := (isFieldName_iff.mp hname).2 c hmem
    rcases hc with rfl | rfl <;> exact absurd (isFieldChar_ascii (by decide) hchar) (by decide)
  simp only [List.mem_append, not_or]
  exact ⟨⟨Text.not_mem_of_allBlank hblank hw, hfield⟩, Text.not_mem_of_allBlank hblank hw'⟩

theorem FieldText.not_allBlank {piece : List Char} {field : String} (h : FieldText piece field) :
    Text.allBlank piece = false := by
  obtain ⟨hname, w, w', -, -, rfl⟩ := h
  obtain ⟨hne, hchars⟩ := isFieldName_iff.mp hname
  obtain ⟨c, hc⟩ := List.exists_mem_of_ne_nil _ hne
  have hmem : c ∈ w ++ field.toList ++ w' := by simp [hc]
  have hnot := isBlank_of_isFieldChar (hchars c hc)
  cases hblank : Text.allBlank (w ++ field.toList ++ w') with
  | false => rfl
  | true => exact absurd hmem (Text.not_mem_of_allBlank hnot hblank)

/-- A chain is what its pieces between slashes are. -/
theorem chainText_iff {chain : List Char} {fields : List String} :
    ChainText chain fields ↔ List.Forall₂ FieldText (chain.splitOn '/') fields := by
  constructor
  · intro h
    induction h with
    | last hfield =>
        rw [List.splitOn_eq_singleton (hfield.not_mem (Or.inl rfl))]
        exact .cons hfield .nil
    | more hfield _ ih =>
        rw [List.splitOn_append_cons_self_of_not_mem (hfield.not_mem (Or.inl rfl))]
        exact .cons hfield ih
  · intro h
    have hjoin : ['/'].intercalate (chain.splitOn '/') = chain := List.intercalate_splitOn '/'
    rw [← hjoin]
    have hne := List.splitOn_ne_nil '/' chain
    generalize chain.splitOn '/' = pieces at h hne
    induction h with
    | nil => exact absurd rfl hne
    | @cons piece field pieces fields hfield hrest ih =>
        cases hrest with
        | nil =>
            rw [List.intercalate_singleton]
            exact .last hfield
        | cons _ _ =>
            rw [List.intercalate_cons_cons]
            have hmore := ChainText.more hfield (ih (by simp))
            simpa using hmore

theorem ChainText.brace_not_mem {chain : List Char} {fields : List String}
    (h : ChainText chain fields) : '\x7b' ∉ chain := by
  induction h with
  | last hfield => exact hfield.not_mem (Or.inr rfl)
  | more hfield _ ih =>
      rw [List.mem_append, List.mem_cons, not_or, not_or]
      exact ⟨hfield.not_mem (Or.inr rfl), by decide, ih⟩

theorem ChainText.not_allBlank {chain : List Char} {fields : List String}
    (h : ChainText chain fields) : Text.allBlank chain = false := by
  cases h with
  | last hfield => exact hfield.not_allBlank
  | more hfield _ =>
      cases hblank : Text.allBlank _ with
      | false => rfl
      | true =>
          have hpiece := (Text.allBlank_append.mp hblank).1
          rw [hfield.not_allBlank] at hpiece
          cases hpiece

/-- What is wrong with a chain: it is blank, or a piece is the first that is no field name. -/
inductive ChainFault (breakdown : String) (chain : List Char) : BreakdownError → Prop
  | empty : Text.allBlank chain = true → ChainFault breakdown chain .emptyChain
  | field {before after : List (List Char)} {piece : List Char} :
      Text.allBlank chain = false → chain.splitOn '/' = before ++ piece :: after →
        (∀ named ∈ before, ∃ field, FieldText named field) → (∀ field, ¬ FieldText piece field) →
          ChainFault breakdown chain
            (.invalidField breakdown (String.ofList (Text.trim piece)))

/-- Reads one piece of a chain. -/
def readField (breakdown : String) (piece : List Char) : Except BreakdownError String :=
  if isFieldName (Text.trim piece) then .ok (String.ofList (Text.trim piece))
  else .error (.invalidField breakdown (String.ofList (Text.trim piece)))

theorem readChain_eq (breakdown : String) (chain : List Char) :
    readChain breakdown chain =
      if Text.allBlank chain then .error .emptyChain
      else (chain.splitOn '/').mapM (readField breakdown) := by
  rw [readChain, Text.splitOn_eq_splitOn]
  rfl

theorem readField_eq_ok {breakdown : String} {piece : List Char} {field : String} :
    readField breakdown piece = .ok field ↔ FieldText piece field := by
  rw [fieldText_iff, readField]
  split
  · next h => simp [h, eq_comm]
  · next h => simp [h]

theorem readField_eq_error {breakdown : String} {piece : List Char} {cause : BreakdownError} :
    readField breakdown piece = .error cause ↔ (∀ field, ¬ FieldText piece field) ∧
      cause = .invalidField breakdown (String.ofList (Text.trim piece)) := by
  simp only [fieldText_iff, readField]
  split
  · next h => simp [h]
  · next h => simp [h, eq_comm]

theorem readChain_eq_ok {breakdown : String} {chain : List Char} {fields : List String} :
    readChain breakdown chain = .ok fields ↔ ChainText chain fields := by
  rw [readChain_eq]
  split
  · next hblank =>
      constructor
      · intro h; cases h
      · intro h
        rw [h.not_allBlank] at hblank
        cases hblank
  · rw [Except.mapM_eq_ok, chainText_iff]
    simp only [readField_eq_ok]

theorem readChain_eq_error {breakdown : String} {chain : List Char} {cause : BreakdownError} :
    readChain breakdown chain = .error cause ↔ ChainFault breakdown chain cause := by
  rw [readChain_eq]
  split
  · next hblank =>
      constructor
      · intro h; cases h; exact .empty hblank
      · intro h
        cases h with
        | empty _ => rfl
        | field hnot =>
            rw [hblank] at hnot
            cases hnot
  · next hblank =>
      rw [Bool.not_eq_true] at hblank
      rw [Except.mapM_eq_error]
      simp only [readField_eq_ok, readField_eq_error]
      constructor
      · rintro ⟨before, piece, after, hcut, hbefore, hpiece, rfl⟩
        exact .field hblank hcut hbefore hpiece
      · intro h
        cases h with
        | empty h => rw [hblank] at h; cases h
        | field _ hcut hbefore hpiece => exact ⟨_, _, _, hcut, hbefore, hpiece, rfl⟩

/-! ## The whole text -/

/-- The text before the first brace, or all of it. -/
def beforeBrace (s : String) : List Char := s.toList.takeWhile (· ≠ '\x7b')

/-- There is a brace, and no closing brace ends the text. -/
def Unclosed (s : String) : Prop :=
  '\x7b' ∈ s.toList ∧
    ¬ ∃ front w, Text.allBlank w = true ∧ s.toList = front ++ '\x7d' :: w

/-- The report of a text: from the first brace to a closing brace that only blanks follow. -/
def ReportAt (s : String) (report : List Char) : Prop :=
  report.head? = some '\x7b' ∧ report.getLast? = some '\x7d' ∧
    ∃ w, Text.allBlank w = true ∧ s.toList = beforeBrace s ++ report ++ w

/-- Why a text is no breakdown. -/
inductive Fault (s : String) : BreakdownError → Prop
  | malformed : Unclosed s → Fault s (.malformed s)
  | chain {cause : BreakdownError} :
      ¬ Unclosed s → ChainFault s (beforeBrace s) cause → Fault s cause
  | report {fields : List String} {report : List Char} {cause : Json.ReadError} :
      ChainText (beforeBrace s) fields → ReportAt s report →
        readReport report = .error cause → Fault s (.malformedReport s cause)

theorem brace_not_mem_beforeBrace (s : String) : '\x7b' ∉ beforeBrace s := by
  intro hmem
  have hne := List.mem_takeWhile_imp hmem
  exact absurd hne (by decide)

theorem ReportAt.not_unclosed {s : String} {report : List Char} (h : ReportAt s report) :
    ¬ Unclosed s := by
  obtain ⟨-, hlast, w, hw, hs⟩ := h
  rintro ⟨-, hnone⟩
  obtain ⟨front, rfl⟩ := List.getLast?_eq_some_iff.mp hlast
  exact hnone ⟨beforeBrace s ++ front, w, hw, by simpa using hs⟩

theorem ReportAt.brace_mem {s : String} {report : List Char} (h : ReportAt s report) :
    '\x7b' ∈ s.toList := by
  obtain ⟨hhead, -, w, -, hs⟩ := h
  rw [hs]
  simp [List.mem_of_mem_head? (Option.mem_def.mpr hhead)]

theorem parse_of_brace_not_mem {s : String} (h : '\x7b' ∉ s.toList) :
    parse s = (do return ⟨← readChain s s.toList, none⟩) := by
  rw [parse]
  simp only [Text.takeWhile_ne_of_not_mem h, Text.dropWhile_ne_of_not_mem h]
  rfl

theorem beforeBrace_of_brace_not_mem {s : String} (h : '\x7b' ∉ s.toList) :
    beforeBrace s = s.toList := Text.takeWhile_ne_of_not_mem h

/-- From the first brace on, a text is its report and blanks. -/
theorem ReportAt.dropWhile_eq {s : String} {report : List Char} (h : ReportAt s report) :
    ∃ w, Text.allBlank w = true ∧ s.toList.dropWhile (· ≠ '\x7b') = report ++ w := by
  obtain ⟨-, -, w, hw, hs⟩ := h
  refine ⟨w, hw, ?_⟩
  rw [List.append_assoc] at hs
  have hcut := List.takeWhile_append_dropWhile (p := (· ≠ '\x7b')) (l := s.toList)
  exact List.append_cancel_left (hcut.trans hs)

theorem ReportAt.trimEnd_eq {s : String} {report : List Char} (h : ReportAt s report) :
    Text.trimEnd (s.toList.dropWhile (· ≠ '\x7b')) = report := by
  obtain ⟨w, hw, hdrop⟩ := h.dropWhile_eq
  obtain ⟨front, rfl⟩ := List.getLast?_eq_some_iff.mp h.2.1
  rw [hdrop, Text.trimEnd_append _ hw, Text.trimEnd_concat _ (by decide)]

theorem parse_of_reportAt {s : String} {report : List Char} (h : ReportAt s report) :
    parse s = (do
      let fields ← readChain s (beforeBrace s)
      match readReport report with
      | .ok operations => return ⟨fields, some operations⟩
      | .error cause => throw (.malformedReport s cause)) := by
  have hne : report ≠ [] := by
    rintro rfl
    cases h.1
  rw [parse]
  simp only [h.trimEnd_eq]
  rw [if_neg hne, if_neg (not_not_intro h.2.1)]
  rfl

theorem parse_of_unclosed {s : String} (h : Unclosed s) : parse s = .error (.malformed s) := by
  obtain ⟨hbrace, hnone⟩ := h
  have hcut := List.takeWhile_append_dropWhile (p := (· ≠ '\x7b')) (l := s.toList)
  obtain ⟨w, hw, hreport⟩ := Text.trimEnd_spec (s.toList.dropWhile (· ≠ '\x7b'))
  have hne : Text.trimEnd (s.toList.dropWhile (· ≠ '\x7b')) ≠ [] := by
    obtain ⟨front, behind, hs, hfront⟩ := List.eq_append_cons_of_mem hbrace
    rw [hs, Text.dropWhile_ne_append_cons hfront, Text.trimEnd_cons (by decide)]
    exact List.cons_ne_nil _ _
  have hlast : (Text.trimEnd (s.toList.dropWhile (· ≠ '\x7b'))).getLast? ≠ some '\x7d' := by
    intro hlast
    obtain ⟨body, hbody⟩ := List.getLast?_eq_some_iff.mp hlast
    rw [hbody, List.append_assoc, List.singleton_append] at hreport
    rw [hreport, ← List.append_assoc] at hcut
    exact hnone ⟨_, w, hw, hcut.symm⟩
  rw [parse]
  exact (if_neg hne).trans (if_pos hlast)

/-- Either no brace stands in a text, or its report ends it, or no closing brace does. -/
theorem reportAt_cases (s : String) :
    '\x7b' ∉ s.toList ∨ (∃ report, ReportAt s report) ∨ Unclosed s := by
  by_cases hbrace : '\x7b' ∈ s.toList
  · right
    by_cases hclosed : ∃ front w, Text.allBlank w = true ∧ s.toList = front ++ '\x7d' :: w
    · obtain ⟨front, w, hw, hs⟩ := hclosed
      have hfront : '\x7b' ∈ front := by
        rw [hs, List.mem_append, List.mem_cons] at hbrace
        rcases hbrace with hbrace | hbrace | hbrace
        · exact hbrace
        · exact absurd hbrace (by decide)
        · exact absurd hbrace (Text.not_mem_of_allBlank (by decide) hw)
      obtain ⟨chain, body, rfl, hchain⟩ := List.eq_append_cons_of_mem hfront
      rw [List.append_assoc, List.cons_append] at hs
      refine Or.inl ⟨'\x7b' :: (body ++ ['\x7d']), rfl, ?_, w, hw, ?_⟩
      · rw [← List.cons_append, List.getLast?_concat]
      · rw [beforeBrace, hs, Text.takeWhile_ne_append_cons hchain]
        simp
    · exact Or.inr ⟨hbrace, hclosed⟩
  · exact Or.inl hbrace

theorem parse_eq_ok_none (s : String) (fields : List String) :
    parse s = .ok ⟨fields, none⟩ ↔ ChainText s.toList fields := by
  rcases reportAt_cases s with hbrace | ⟨report, hreport⟩ | hunclosed
  · rw [parse_of_brace_not_mem hbrace, Except.bind_eq_ok]
    constructor
    · rintro ⟨_, hread, h⟩
      cases h
      exact readChain_eq_ok.mp hread
    · intro h
      exact ⟨fields, readChain_eq_ok.mpr h, rfl⟩
  · constructor
    · rw [parse_of_reportAt hreport, Except.bind_eq_ok]
      rintro ⟨_, -, h⟩
      split at h <;> cases h
    · intro h
      exact absurd hreport.brace_mem h.brace_not_mem
  · constructor
    · rw [parse_of_unclosed hunclosed]
      intro h
      cases h
    · intro h
      exact absurd hunclosed.1 h.brace_not_mem

/-- A text has one report. -/
theorem ReportAt.eq {s : String} {report report' : List Char} (h : ReportAt s report)
    (h' : ReportAt s report') : report = report' := h.trimEnd_eq.symm.trans h'.trimEnd_eq

theorem parse_eq_ok_some (s : String) (fields : List String) (operations : Dict String) :
    parse s = .ok ⟨fields, some operations⟩ ↔
      ∃ report, ChainText (beforeBrace s) fields ∧ ReportAt s report ∧
        readReport report = .ok operations := by
  rcases reportAt_cases s with hbrace | ⟨report, hreport⟩ | hunclosed
  · constructor
    · rw [parse_of_brace_not_mem hbrace, Except.bind_eq_ok]
      rintro ⟨_, -, h⟩
      cases h
    · rintro ⟨report, -, hreport, -⟩
      exact absurd hreport.brace_mem hbrace
  · rw [parse_of_reportAt hreport, Except.bind_eq_ok]
    constructor
    · rintro ⟨_, hread, h⟩
      split at h
      · next hoperations =>
          cases h
          exact ⟨report, readChain_eq_ok.mp hread, hreport, hoperations⟩
      · cases h
    · rintro ⟨report', hchain, hreport', hoperations⟩
      rw [hreport'.eq hreport] at hoperations
      refine ⟨fields, readChain_eq_ok.mpr hchain, ?_⟩
      rw [hoperations]
      rfl
  · constructor
    · rw [parse_of_unclosed hunclosed]
      intro h
      cases h
    · rintro ⟨report, -, hreport, -⟩
      exact absurd hunclosed hreport.not_unclosed

theorem parse_eq_error (s : String) (cause : BreakdownError) :
    parse s = .error cause ↔ Fault s cause := by
  rcases reportAt_cases s with hbrace | ⟨report, hreport⟩ | hunclosed
  · rw [parse_of_brace_not_mem hbrace, Except.bind_eq_error, readChain_eq_error,
      ← beforeBrace_of_brace_not_mem hbrace]
    constructor
    · rintro (h | ⟨_, -, h⟩)
      · exact .chain (fun hunclosed => hbrace hunclosed.1) h
      · cases h
    · intro h
      cases h with
      | malformed hunclosed => exact absurd hunclosed.1 hbrace
      | chain _ hfault => exact Or.inl hfault
      | report _ hreport => exact absurd hreport.brace_mem hbrace
  · rw [parse_of_reportAt hreport, Except.bind_eq_error, readChain_eq_error]
    constructor
    · rintro (h | ⟨fields, hread, h⟩)
      · exact .chain hreport.not_unclosed h
      · split at h
        · cases h
        · next hcause =>
            cases h
            exact .report (readChain_eq_ok.mp hread) hreport hcause
    · intro h
      cases h with
      | malformed hunclosed => exact absurd hunclosed hreport.not_unclosed
      | chain _ hfault => exact Or.inl hfault
      | report hchain hreport' hcause =>
          rw [hreport'.eq hreport] at hcause
          refine Or.inr ⟨_, readChain_eq_ok.mpr hchain, ?_⟩
          rw [hcause]
          rfl
  · rw [parse_of_unclosed hunclosed]
    constructor
    · intro h
      cases h
      exact .malformed hunclosed
    · intro h
      cases h with
      | malformed _ => rfl
      | chain hnot _ => exact absurd hunclosed hnot
      | report _ hreport => exact absurd hunclosed hreport.not_unclosed

/-- A chain with a report behind it, and blanks behind that, is read part by part. -/
theorem parse_of_report {s : String} {chain report w : List Char} {fields : List String}
    {operations : Dict String} (hs : s.toList = chain ++ report ++ w)
    (hchain : ChainText chain fields) (hhead : report.head? = some '\x7b')
    (hlast : report.getLast? = some '\x7d') (hw : Text.allBlank w = true)
    (hread : readReport report = .ok operations) : parse s = .ok ⟨fields, some operations⟩ := by
  obtain ⟨body, rfl⟩ := List.head?_eq_some_iff.mp hhead
  have hbefore : beforeBrace s = chain := by
    rw [beforeBrace, hs, List.append_assoc, List.cons_append,
      Text.takeWhile_ne_append_cons hchain.brace_not_mem]
  refine (parse_eq_ok_some s fields operations).mpr ⟨_, hbefore ▸ hchain, ?_, hread⟩
  exact ⟨hhead, hlast, w, hw, by rw [hbefore, hs]⟩

theorem parse_of_append {s : String} {chain report : List Char} {fields : List String}
    {operations : Dict String} (hs : s.toList = chain ++ report) (hchain : ChainText chain fields)
    (hhead : report.head? = some '\x7b') (hlast : report.getLast? = some '\x7d')
    (hread : readReport report = .ok operations) : parse s = .ok ⟨fields, some operations⟩ :=
  parse_of_report (w := []) (by rw [hs, List.append_nil]) hchain hhead hlast Text.allBlank_nil hread

/-! ## Blanks around the text -/

theorem FieldText.trimStart {piece : List Char} {field : String} (h : FieldText piece field) :
    FieldText (Text.trimStart piece) field := by
  obtain ⟨hname, w, w', hw, hw', rfl⟩ := h
  have hplain : FieldText (field.toList ++ w') field := ⟨hname, [], w', rfl, hw', rfl⟩
  obtain ⟨hne, hchars⟩ := isFieldName_iff.mp hname
  obtain ⟨c, cs, hcs⟩ := List.exists_cons_of_ne_nil hne
  have hc := isBlank_of_isFieldChar (hchars c (hcs ▸ List.mem_cons_self))
  rw [List.append_assoc, Text.trimStart_append hw]
  rw [hcs, List.cons_append] at hplain ⊢
  rwa [Text.trimStart_cons hc]

theorem FieldText.trimEnd {piece : List Char} {field : String} (h : FieldText piece field) :
    FieldText (Text.trimEnd piece) field := by
  obtain ⟨hname, w, w', hw, hw', rfl⟩ := h
  have hplain : FieldText (w ++ field.toList) field := ⟨hname, w, [], hw, rfl, by simp⟩
  obtain ⟨hne, hchars⟩ := isFieldName_iff.mp hname
  obtain ⟨front, c, hcs⟩ := List.eq_nil_or_concat field.toList |>.resolve_left hne
  rw [List.concat_eq_append] at hcs
  have hc := isBlank_of_isFieldChar (hchars c (by rw [hcs]; simp))
  rw [Text.trimEnd_append _ hw']
  rw [hcs, ← List.append_assoc] at hplain ⊢
  rwa [Text.trimEnd_concat _ hc]

theorem ChainText.trimStart {chain : List Char} {fields : List String}
    (h : ChainText chain fields) : ChainText (Text.trimStart chain) fields := by
  cases h with
  | last hfield => exact .last hfield.trimStart
  | more hfield hrest =>
      rw [Text.trimStart_append_of_not_allBlank hfield.not_allBlank]
      exact .more hfield.trimStart hrest

theorem ChainText.trimEnd {chain : List Char} {fields : List String}
    (h : ChainText chain fields) : ChainText (Text.trimEnd chain) fields := by
  induction h with
  | last hfield => exact .last hfield.trimEnd
  | more hfield _ ih =>
      rw [Text.trimEnd_append_cons _ (by decide)]
      exact .more hfield ih

theorem ChainText.fields_ne_nil {chain : List Char} {fields : List String}
    (h : ChainText chain fields) : fields ≠ [] := by
  cases h <;> exact List.cons_ne_nil _ _

theorem parse_fields_ne_nil {s : String} {b : Breakdown} (h : parse s = .ok b) : b.fields ≠ [] := by
  obtain ⟨fields, operations⟩ := b
  cases operations with
  | none => exact ((parse_eq_ok_none s fields).mp h).fields_ne_nil
  | some operations =>
      obtain ⟨_, hchain, -, -⟩ := (parse_eq_ok_some s fields operations).mp h
      exact hchain.fields_ne_nil

/-- Blanks around a breakdown make no difference to what it is read as. -/
theorem parse_trimString {s : String} {b : Breakdown} (h : parse s = .ok b) :
    parse (Text.trimString s) = .ok b := by
  obtain ⟨fields, operations⟩ := b
  have htrim : (Text.trimString s).toList = Text.trim s.toList := String.toList_ofList
  cases operations with
  | none =>
      rw [parse_eq_ok_none] at h ⊢
      rw [htrim]
      exact h.trimStart.trimEnd
  | some operations =>
      obtain ⟨report, hchain, ⟨hhead, hlast, w, hw, hs⟩, hread⟩ :=
        (parse_eq_ok_some s fields operations).mp h
      refine parse_of_append ?_ hchain.trimStart hhead hlast hread
      obtain ⟨front, rfl⟩ := List.getLast?_eq_some_iff.mp hlast
      rw [htrim, Text.trim, hs, List.append_assoc,
        Text.trimStart_append_of_not_allBlank hchain.not_allBlank, ← List.append_assoc,
        Text.trimEnd_append _ hw, ← List.append_assoc, Text.trimEnd_concat _ (by decide)]

/-- A breakdown that can be read is not blank. -/
theorem trimString_ne_of_parse {s : String} {b : Breakdown} (h : parse s = .ok b) :
    Text.trimString s ≠ "" := by
  intro hempty
  have hparse := parse_trimString h
  have hnone : parse "" = .error .emptyChain := rfl
  rw [hempty, hnone] at hparse
  cases hparse

/-- A breakdown is a chain, or a chain and a report behind it. Every other text has one fault: it is
not closed, or its chain is blank or has a piece that is no field name, or its report cannot be
read, the first of these that applies. -/
theorem parse_eq_iff_grammar (s : String) :
    (∀ fields, parse s = .ok ⟨fields, none⟩ ↔ ChainText s.toList fields) ∧
    (∀ fields operations, parse s = .ok ⟨fields, some operations⟩ ↔
      ∃ chain report w, s.toList = chain ++ report ++ w ∧ '\x7b' ∉ chain ∧
        ChainText chain fields ∧ report.head? = some '\x7b' ∧ report.getLast? = some '\x7d' ∧
        Text.allBlank w = true ∧ readReport report = .ok operations) ∧
    (∀ cause, parse s = .error cause ↔ Fault s cause) := by
  refine ⟨parse_eq_ok_none s, ?_, parse_eq_error s⟩
  intro fields operations
  rw [parse_eq_ok_some]
  constructor
  · rintro ⟨report, hchain, ⟨hhead, hlast, w, hw, hs⟩, hread⟩
    exact ⟨beforeBrace s, report, w, hs, brace_not_mem_beforeBrace s, hchain, hhead, hlast, hw,
      hread⟩
  · rintro ⟨chain, report, w, hs, hbrace, hchain, hhead, hlast, hw, hread⟩
    obtain ⟨body, rfl⟩ := List.head?_eq_some_iff.mp hhead
    have hbefore : beforeBrace s = chain := by
      rw [beforeBrace, hs, List.append_assoc, List.cons_append,
        Text.takeWhile_ne_append_cons hbrace]
    rw [← hbefore] at hchain hs
    exact ⟨_, hchain, ⟨hhead, hlast, w, hw, hs⟩, hread⟩

end Rollup.Breakdown
