import Rollup.Breakdown.Report
import Rollup.Proofs.Json.TextMap
import Rollup.Proofs.Text

/-!
# What a report looks like

A report is an object of texts in which a key or a value may also be a name
without quotes, which then stands for itself.

It can be read in one way only. A name goes on as long as its characters do, a
literal ends at the first quote that is not part of a spelling, and neither
starts like the other. Behind both comes a blank, a colon, a comma or the
closing brace, and none of these goes on with a name.
-/

namespace Rollup.Breakdown

/-! ## The grammar -/

/-- A name without quotes. -/
inductive NameText : List Char → Prop
  | mk {c : Char} {cs : List Char} :
      startsName c = true → (∀ d ∈ cs, continuesName d = true) → NameText (c :: cs)

/-- A key or a value: a literal and its text, or a name, which is its own text. -/
inductive Token : List Char → String → Prop
  | literal {word : List Char} {text : String} : Json.Literal word text → Token word text
  | name {word : List Char} : NameText word → Token word (String.ofList word)

/-- A report and its members in order. -/
abbrev ReportText : List Char → List (String × String) → Prop := Json.ObjectText Token

/-! ## What a token starts with and what may follow it -/

/-- A colon, a comma or a closing brace. -/
def Separator (c : Char) : Prop := c = ':' ∨ c = ',' ∨ c = '\x7d'

/-- A separator is next, or a blank. -/
def Ends (rest : List Char) : Prop :=
  ∃ c tail, rest = c :: tail ∧ (Json.isBlank c = true ∨ Separator c)

theorem ends_append {w rest : List Char} {c : Char} (hw : Json.AllBlank w) (hc : Separator c) :
    Ends (w ++ c :: rest) := by
  cases w with
  | nil => exact ⟨c, rest, rfl, Or.inr hc⟩
  | cons d w => exact ⟨d, _, rfl, Or.inl (hw d List.mem_cons_self)⟩

theorem json_isBlank_iff {c : Char} :
    Json.isBlank c = true ↔ c = ' ' ∨ c = '\t' ∨ c = '\n' ∨ c = '\r' := by
  simp [Json.isBlank, or_assoc]

theorem startsName_code {c : Char} (h : startsName c = true) :
    (0x41 ≤ c.toNat ∧ c.toNat ≤ 0x5A) ∨ c.toNat = 0x5F ∨ (0x61 ≤ c.toNat ∧ c.toNat ≤ 0x7A) := by
  rw [startsName, Bool.or_eq_true, decide_eq_true_eq] at h
  rcases h with h | rfl
  · have hcase : (c.isUpper || c.isLower) = true := h
    rw [Bool.or_eq_true] at hcase
    rcases hcase with hupper | hlower
    · exact Or.inl (of_decide_eq_true hupper)
    · have hbounds := Bool.and_eq_true_iff.mp hlower
      exact Or.inr (Or.inr ⟨of_decide_eq_true hbounds.1, of_decide_eq_true hbounds.2⟩)
  · exact Or.inr (Or.inl rfl)

theorem continuesName_of_startsName {c : Char} (h : startsName c = true) :
    continuesName c = true := by
  have hcode := startsName_code h
  rw [continuesName, (Text.isWord_ascii_iff c (by omega)).mpr (by omega)]
  rfl

/-- No ASCII character but a point, a digit, a letter or the underscore goes on with a name. -/
theorem continuesName_code {c : Char} (hascii : c.toNat < 0x80) (h : continuesName c = true) :
    c.toNat = 0x2E ∨ (0x30 ≤ c.toNat ∧ c.toNat ≤ 0x39) ∨ (0x41 ≤ c.toNat ∧ c.toNat ≠ 0x5C ∧
      c.toNat ≤ 0x7A) := by
  rw [continuesName, Bool.or_eq_true, decide_eq_true_eq] at h
  rcases h with h | rfl
  · have hword := (Text.isWord_ascii_iff c hascii).mp h
    omega
  · exact Or.inl rfl

theorem NameText.all {word : List Char} (h : NameText word) :
    ∀ c ∈ word, continuesName c = true := by
  obtain ⟨hfirst, hmore⟩ := h
  intro c hc
  rcases List.mem_cons.mp hc with rfl | hc
  · exact continuesName_of_startsName hfirst
  · exact hmore c hc

/-- What ends a token starts none. -/
theorem continuesName_of_ends {c : Char} (h : Json.isBlank c = true ∨ Separator c) :
    continuesName c = false := by
  rw [json_isBlank_iff, Separator] at h
  have hascii : c.toNat < 0x80 := by
    rcases h with (rfl | rfl | rfl | rfl) | rfl | rfl | rfl <;> decide
  cases hname : continuesName c with
  | false => rfl
  | true =>
      have hcode := continuesName_code hascii hname
      rcases h with (rfl | rfl | rfl | rfl) | rfl | rfl | rfl <;> exact absurd hcode (by decide)

/-- A token starts with a quote or with the first character of a name. -/
theorem Token.exists_head {word : List Char} {text : String} (h : Token word text) :
    ∃ c cs, word = c :: cs ∧ (c = '"' ∨ startsName c = true) := by
  cases h with
  | literal h =>
      obtain ⟨body, -, rfl⟩ := h
      exact ⟨_, _, rfl, Or.inl rfl⟩
  | name h =>
      obtain ⟨hfirst, -⟩ := h
      exact ⟨_, _, rfl, Or.inr hfirst⟩

theorem json_isBlank_of_head {c : Char} (h : c = '"' ∨ startsName c = true) :
    Json.isBlank c = false := by
  rcases h with rfl | h
  · decide
  · cases hblank : Json.isBlank c with
    | false => rfl
    | true =>
        have hname := continuesName_of_ends (Or.inl hblank)
        rw [continuesName_of_startsName h] at hname
        cases hname

theorem not_separator_of_json_isBlank {c : Char} (h : Separator c) : Json.isBlank c = false := by
  rcases h with rfl | rfl | rfl <;> decide

theorem ne_of_startsName {c : Char} (h : startsName c = true) : c ≠ '"' := by
  rintro rfl
  cases h

/-! ## One reading -/

/-- A token ends at one place and has one text. -/
theorem Token.unique {word word' rest rest' : List Char} {text text' : String}
    (h : Token word text) (h' : Token word' text') (hends : Ends rest) (hends' : Ends rest')
    (heq : word ++ rest = word' ++ rest') : text = text' ∧ rest = rest' := by
  cases h with
  | literal h =>
      obtain ⟨body, hbody, rfl⟩ := h
      cases h' with
      | literal h' =>
          obtain ⟨body', hbody', rfl⟩ := h'
          have hcontent : body ++ '"' :: rest = body' ++ '"' :: rest' := by simpa using heq
          obtain ⟨-, htext, hrest⟩ := hbody.unique hbody' hcontent
          exact ⟨String.toList_inj.mp htext, hrest⟩
      | name h' =>
          obtain ⟨hfirst, -⟩ := h'
          exact absurd (List.cons.inj heq).1.symm (ne_of_startsName hfirst)
  | name h =>
      cases h' with
      | literal h' =>
          obtain ⟨body', -, rfl⟩ := h'
          obtain ⟨hfirst, -⟩ := h
          exact absurd (List.cons.inj heq).1 (ne_of_startsName hfirst)
      | name h' =>
          obtain ⟨c, tail, rfl, hc⟩ := hends
          obtain ⟨c', tail', rfl, hc'⟩ := hends'
          obtain ⟨rfl, hrest⟩ := Text.append_cons_inj_of_all h.all h'.all
            (continuesName_of_ends hc) (continuesName_of_ends hc') heq
          exact ⟨rfl, hrest⟩

/-- Between blanks too, and before a separator. -/
theorem spaced_unique {k k' rest rest' : List Char} {text text' : String} {c c' : Char}
    (h : Json.Spaced Token k text) (h' : Json.Spaced Token k' text') (hc : Separator c)
    (hc' : Separator c') (heq : k ++ c :: rest = k' ++ c' :: rest') :
    text = text' ∧ c = c' ∧ rest = rest' := by
  obtain ⟨w₁, word, w₂, hw₁, hw₂, hword, rfl⟩ := h
  obtain ⟨w₁', word', w₂', hw₁', hw₂', hword', rfl⟩ := h'
  obtain ⟨first, more, hfirst, hhead⟩ := hword.exists_head
  obtain ⟨first', more', hfirst', hhead'⟩ := hword'.exists_head
  have hwords : word ++ (w₂ ++ c :: rest) = word' ++ (w₂' ++ c' :: rest') := by
    rw [hfirst, hfirst'] at heq ⊢
    simp only [List.append_assoc, List.cons_append] at heq ⊢
    exact (Text.append_cons_inj_of_all hw₁ hw₁' (json_isBlank_of_head hhead)
      (json_isBlank_of_head hhead') heq).2
  obtain ⟨htext, hbehind⟩ := hword.unique hword' (ends_append hw₂ hc) (ends_append hw₂' hc') hwords
  obtain ⟨-, hrest⟩ := Text.append_cons_inj_of_all hw₂ hw₂' (not_separator_of_json_isBlank hc)
    (not_separator_of_json_isBlank hc') hbehind
  exact ⟨htext, (List.cons.inj hrest).1, (List.cons.inj hrest).2⟩

theorem exists_separator_of_tail {token : List Char → String → Prop} {tail : List Char}
    {pairs : List (String × String)} (h : Json.MembersTail token tail pairs) :
    ∃ c rest, tail = c :: rest ∧ Separator c := by
  cases h with
  | close => exact ⟨_, _, rfl, Or.inr (Or.inr rfl)⟩
  | comma _ => exact ⟨_, _, rfl, Or.inr (Or.inl rfl)⟩

theorem membersText_unique {members : List Char} {pairs pairs' : List (String × String)}
    (h : Json.MembersText Token members pairs) (h' : Json.MembersText Token members pairs') :
    pairs = pairs' := by
  induction h generalizing pairs' with
  | last hkey hvalue =>
      obtain ⟨k', v', tail', key', value', rest', hkey', hvalue', htail', heq, rfl⟩ :=
        h'.exists_cons
      obtain ⟨rfl, -, hbehind⟩ := spaced_unique hkey hkey' (Or.inl rfl) (Or.inl rfl) heq
      obtain ⟨c, rest, rfl, hc⟩ := exists_separator_of_tail htail'
      obtain ⟨rfl, rfl, rfl⟩ := spaced_unique hvalue hvalue' (Or.inr (Or.inr rfl)) hc hbehind
      cases htail'
      rfl
  | more hkey hvalue _ ih =>
      obtain ⟨k', v', tail', key', value', rest', hkey', hvalue', htail', heq, rfl⟩ :=
        h'.exists_cons
      obtain ⟨rfl, -, hbehind⟩ := spaced_unique hkey hkey' (Or.inl rfl) (Or.inl rfl) heq
      obtain ⟨c, rest, rfl, hc⟩ := exists_separator_of_tail htail'
      obtain ⟨rfl, rfl, rfl⟩ := spaced_unique hvalue hvalue' (Or.inr (Or.inl rfl)) hc hbehind
      cases htail' with
      | comma hmembers' => rw [ih hmembers']

/-- A report has one list of members. -/
theorem ReportText.unique {report : List Char} {pairs pairs' : List (String × String)}
    (h : ReportText report pairs) (h' : ReportText report pairs') : pairs = pairs' := by
  have hbare : ∀ {w pairs}, Json.AllBlank w → ¬ Json.MembersText Token (w ++ ['\x7d']) pairs := by
    intro w pairs hw hmembers
    obtain ⟨k, v, tail, key, value, rest, hkey, -, -, heq, -⟩ := hmembers.exists_cons
    obtain ⟨w₁, word, w₂, hw₁, -, hword, rfl⟩ := hkey
    obtain ⟨first, more, rfl, hhead⟩ := hword.exists_head
    simp only [List.append_assoc, List.cons_append] at heq
    obtain ⟨-, hbrace⟩ := Text.append_cons_inj_of_all hw hw₁ (by decide)
      (json_isBlank_of_head hhead) heq
    rw [← (List.cons.inj hbrace).1] at hhead
    rcases hhead with h | h <;> cases h
  cases h with
  | empty hw =>
      generalize hreport : '\x7b' :: (_ ++ ['\x7d']) = report at h'
      cases h' with
      | empty _ => rfl
      | members hmembers =>
          cases hreport
          exact absurd hmembers (hbare hw)
  | members hmembers =>
      generalize hreport : '\x7b' :: _ = report at h'
      cases h' with
      | empty hw =>
          cases hreport
          exact absurd hmembers (hbare hw)
      | members hmembers' =>
          cases hreport
          exact membersText_unique hmembers hmembers'

end Rollup.Breakdown
