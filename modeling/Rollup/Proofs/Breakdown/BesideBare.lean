import Rollup.Proofs.Breakdown.InPlace
import Rollup.Proofs.Breakdown.Written
import Rollup.Proofs.Entries

/-!
# Strings beside a name without quotes

As soon as one member of a report has no quotes, the whole text goes through the
passes, and the strings in it with it. A string is left alone if no name stands
in place in it, and then it is read as before. Otherwise a quote is put into it,
the string ends there, and the report is refused; it is never read as something
else.
-/

namespace Rollup.Breakdown

open Rollup.Json

/-! ## Plain strings -/

/-- A literal in which no name is in place. -/
def PlainLiteral (word : List Char) (text : String) : Prop :=
  Literal word text ∧ ¬ NameInPlace word

/-- No name gets into place when characters that start none are put in front. -/
def Settled (cs : List Char) : Prop :=
  ∀ gap : List Char, (∀ c ∈ gap, startsName c = false) → ¬ NameInPlace (gap ++ cs)

section

variable {cs : List Char}

theorem settled_nil : Settled [] := fun gap hgap => by
  rw [List.append_nil]
  exact not_nameInPlace_of_forall hgap

theorem Settled.append {gap : List Char} (h : Settled cs)
    (hgap : ∀ c ∈ gap, startsName c = false) : Settled (gap ++ cs) := by
  intro gap' hgap'
  rw [← List.append_assoc]
  exact h _ fun c hc => (List.mem_append.mp hc).elim (hgap' c) (hgap c)

theorem startsName_of_ends {c : Char} (h : isBlank c = true ∨ Separator c) :
    startsName c = false := by
  cases hstarts : startsName c with
  | false => rfl
  | true =>
      have hcontinues := continuesName_of_startsName hstarts
      rw [continuesName_of_ends h] at hcontinues
      cases hcontinues

theorem Settled.blanks {w : List Char} (h : Settled cs) (hw : AllBlank w) : Settled (w ++ cs) :=
  h.append fun c hc => startsName_of_ends (Or.inl (hw c hc))

theorem Settled.separator {c : Char} (h : Settled cs) (hc : Separator c) : Settled (c :: cs) := by
  have hgap : ∀ d ∈ [c], startsName d = false :=
    List.forall_mem_singleton.mpr (startsName_of_ends (Or.inr hc))
  exact h.append hgap

theorem Settled.literal {word : List Char} {text : String} (h : Settled cs)
    (hword : PlainLiteral word text) : Settled (word ++ cs) := by
  obtain ⟨⟨body, -, rfl⟩, hplain⟩ := hword
  rw [nameInPlace_quoted] at hplain
  intro gap hgap
  rw [List.cons_append, List.append_assoc, List.cons_append, List.nil_append,
    nameInPlace_append_quote, nameInPlace_append_quote]
  exact not_or.mpr ⟨not_nameInPlace_of_forall hgap, not_or.mpr ⟨hplain, h [] nofun⟩⟩

theorem Settled.spaced {k : List Char} {text : String} (h : Settled cs)
    (hk : Spaced PlainLiteral k text) : Settled (k ++ cs) := by
  obtain ⟨w, word, w', hw, hw', hword, rfl⟩ := hk
  rw [List.append_assoc, List.append_assoc]
  exact ((h.blanks hw').literal hword).blanks hw

end

/-- What stands between plain strings starts no name, so all of it is settled. -/
theorem settled_members {members : List Char} {pairs : List (String × String)}
    (h : MembersText PlainLiteral members pairs) : Settled members := by
  induction h with
  | last hkey hvalue =>
      have hend := settled_nil.separator (Or.inr (Or.inr rfl) : Separator '\x7d')
      exact ((hend.spaced hvalue).separator (Or.inl rfl)).spaced hkey
  | more hkey hvalue _ ih =>
      have hcomma := ih.separator (Or.inr (Or.inl rfl) : Separator ',')
      exact ((hcomma.spaced hvalue).separator (Or.inl rfl)).spaced hkey

theorem spaced_plain {k rest : List Char} {text : String} (hk : Spaced Literal k text)
    (h : ¬ NameInPlace (k ++ rest)) : Spaced PlainLiteral k text := by
  obtain ⟨w, word, w', hw, hw', hword, rfl⟩ := hk
  refine ⟨w, word, w', hw, hw', ⟨hword, fun hplace => h ?_⟩, rfl⟩
  exact ((hplace.append_left w).append_right w').append_right rest

theorem membersText_plain {members : List Char} {pairs : List (String × String)}
    (h : MembersText Literal members pairs) (hplace : ¬ NameInPlace members) :
    MembersText PlainLiteral members pairs := by
  induction h with
  | last hkey hvalue =>
      have hbehind : ¬ NameInPlace (_ ++ ['\x7d']) :=
        fun hvalue => hplace ((hvalue.append_left [':']).append_left _)
      exact .last (spaced_plain hkey hplace) (spaced_plain hvalue hbehind)
  | more hkey hvalue _ ih =>
      have hbehind : ¬ NameInPlace (_ ++ ',' :: _) :=
        fun hvalue => hplace ((hvalue.append_left [':']).append_left _)
      exact .more (spaced_plain hkey hplace) (spaced_plain hvalue hbehind)
        (ih fun hrest => hbehind ((hrest.append_left [',']).append_left _))

/-- The passes leave members alone exactly if each of their strings is plain. -/
theorem quoted_members_iff {members : List Char} {pairs : List (String × String)}
    (h : MembersText Literal members pairs) :
    quoteValues (quoteKeys members) = members ↔ MembersText PlainLiteral members pairs := by
  rw [quoted_eq_self_iff]
  exact ⟨membersText_plain h, fun hplain => settled_members hplain [] nofun⟩

/-! ## Strings that get a quote put in -/

/-- What stood there before a string was that string, or a name. -/
theorem Requoted.of_spaced_literal {here : Bool} {s k rest : List Char} {text : String} {e : Char}
    (hk : Spaced Literal k text) (he : Separator e) (h : Requoted here s (k ++ e :: rest)) :
    (∃ here' s', s = k ++ e :: s' ∧ Requoted here' s' rest) ∨
      ∃ w name s', AllBlank w ∧ NameText name ∧ s = w ++ name ++ s' := by
  obtain ⟨w, _, w', hw, hw', ⟨body, hbody, rfl⟩, rfl⟩ := hk
  simp only [List.append_assoc, List.cons_append, List.nil_append] at h
  obtain ⟨_, s₁, rfl, hword⟩ := h.of_quote_not_mem w (quote_not_mem_of_allBlank hw)
  generalize hfar : body ++ '"' :: (w' ++ e :: rest) = far at hword
  cases hword with
  | keep hword =>
      subst hfar
      rcases hword.of_content hbody with ⟨_, s₂, rfl, hbehind⟩ | ⟨c, tail, heq, hstart⟩
      · have hquote : '"' ∉ w' ++ [e] := by
          rw [List.mem_append, List.mem_singleton, not_or]
          refine ⟨quote_not_mem_of_allBlank hw', ?_⟩
          rcases he with rfl | rfl | rfl <;> decide
        rw [List.append_cons] at hbehind
        obtain ⟨here', s₃, rfl, hrest⟩ := hbehind.of_quote_not_mem _ hquote
        exact Or.inl ⟨here', s₃, by simp, hrest⟩
      · obtain ⟨d, tail', hends, hd⟩ : Ends (w' ++ e :: rest) := ends_append hw' he
        rw [hends] at heq
        rw [← (List.cons.inj heq).1, startsName_of_ends hd] at hstart
        cases hstart
  | quote hname _ => exact Or.inr ⟨w, _, _, hw, hname, (List.append_assoc ..).symm⟩

theorem spaced_literal_unique {k k' rest rest' : List Char} {text text' : String} {c c' : Char}
    (h : Spaced Literal k text) (h' : Spaced Literal k' text') (hc : Separator c)
    (hc' : Separator c') (heq : k ++ c :: rest = k' ++ c' :: rest') :
    text = text' ∧ c = c' ∧ rest = rest' :=
  spaced_unique (h.mono fun _ _ => .literal) (h'.mono fun _ _ => .literal) hc hc' heq

/-- One pass after another. -/
def RequotedTwice (s t : List Char) : Prop :=
  ∃ here here' u, Requoted here s u ∧ Requoted here' u t

theorem requotedTwice_quoted (cs : List Char) :
    RequotedTwice cs (quoteValues (quoteKeys cs)) :=
  ⟨true, true, quoteKeys cs, requoted_quoteNames rfl cs true,
    requoted_quoteNames rfl (quoteKeys cs) true⟩

theorem Requoted.eq_nil {here : Bool} {t : List Char} (h : Requoted here [] t) : t = [] := by
  generalize hnone : [] = s at h
  cases h with
  | nil => rfl
  | keep _ => cases hnone
  | quote hname _ =>
      obtain ⟨-, -⟩ := hname
      cases hnone

namespace RequotedTwice

theorem eq_nil {t : List Char} (h : RequotedTwice [] t) : t = [] := by
  obtain ⟨_, _, u, hfirst, hsecond⟩ := h
  rw [hfirst.eq_nil] at hsecond
  exact hsecond.eq_nil

/-- A name between the passes was a name before them. -/
theorem of_spaced {s k rest : List Char} {text : String} {e : Char} (hk : Spaced Literal k text)
    (he : Separator e) (h : RequotedTwice s (k ++ e :: rest)) :
    (∃ s', s = k ++ e :: s' ∧ RequotedTwice s' rest) ∨
      ∃ w name s', AllBlank w ∧ NameText name ∧ s = w ++ name ++ s' := by
  obtain ⟨_, _, u, hfirst, hsecond⟩ := h
  rcases hsecond.of_spaced_literal hk he with ⟨_, u', rfl, hrest⟩ | ⟨w, name, u', hw, hname, rfl⟩
  · rcases hfirst.of_spaced_literal hk he with ⟨_, s', rfl, hbehind⟩ | hname
    · exact Or.inl ⟨s', rfl, _, _, u', hbehind, hrest⟩
    · exact Or.inr hname
  · have hquote : '"' ∉ w ++ name := by
      simp [quote_not_mem_of_allBlank hw, hname.quote_not_mem]
    obtain ⟨_, s', rfl, -⟩ := hfirst.of_quote_not_mem (w ++ name) hquote
    exact Or.inr ⟨w, name, s', hw, hname, rfl⟩

theorem eq_of_spaced {k k' rest rest' : List Char} {text text' : String} {e e' : Char}
    (hk : Spaced Literal k text) (hk' : Spaced Literal k' text') (he : Separator e)
    (he' : Separator e') (h : RequotedTwice (k ++ e :: rest) (k' ++ e' :: rest')) :
    k = k' ∧ e = e' ∧ RequotedTwice rest rest' := by
  rcases h.of_spaced hk' he' with ⟨s', heq, hrest⟩ | ⟨w, name, s', hw, hname, heq⟩
  · obtain ⟨-, rfl, rfl⟩ := spaced_literal_unique hk hk' he he' heq
    exact ⟨List.append_cancel_right heq, rfl, hrest⟩
  · obtain ⟨w₁, _, w₂, hw₁, -, ⟨body, -, rfl⟩, rfl⟩ := hk
    obtain @⟨first, more, hfirst, -⟩ := hname
    simp only [List.append_assoc, List.cons_append] at heq
    obtain ⟨-, hheads⟩ := Text.append_cons_inj_of_all hw₁ hw (by decide)
      (json_isBlank_of_head (Or.inr hfirst)) heq
    exact absurd (List.cons.inj hheads).1.symm (ne_of_startsName hfirst)

/-- Members of strings that became members of strings are the same text. -/
theorem eq_of_members {s t after : List Char} {pairs pairs' : List (String × String)}
    (hs : MembersText Literal s pairs) (ht : MembersText Literal t pairs')
    (h : RequotedTwice s (t ++ after)) : s = t ++ after := by
  -- Between the passes the text need not be members of strings, so the induction is over the last of
  -- the three texts, and each step takes one string off the first and the last together.
  induction ht generalizing s pairs with
  | last hkey hvalue =>
      obtain ⟨k', v', tail', _, _, _, hkey', hvalue', htail', rfl, -⟩ := hs.exists_cons
      obtain ⟨c, rest, rfl, hc⟩ := exists_separator_of_tail htail'
      simp only [List.append_assoc, List.cons_append, List.nil_append] at h ⊢
      obtain ⟨rfl, -, hbehind⟩ := h.eq_of_spaced hkey' hkey (Or.inl rfl) (Or.inl rfl)
      obtain ⟨rfl, rfl, hrest⟩ := hbehind.eq_of_spaced hvalue' hvalue hc (Or.inr (Or.inr rfl))
      cases htail'
      rw [hrest.eq_nil]
  | more hkey hvalue _ ih =>
      obtain ⟨k', v', tail', _, _, _, hkey', hvalue', htail', rfl, -⟩ := hs.exists_cons
      obtain ⟨c, rest, rfl, hc⟩ := exists_separator_of_tail htail'
      simp only [List.append_assoc, List.cons_append] at h ⊢
      obtain ⟨rfl, -, hbehind⟩ := h.eq_of_spaced hkey' hkey (Or.inl rfl) (Or.inl rfl)
      obtain ⟨rfl, rfl, hrest⟩ := hbehind.eq_of_spaced hvalue' hvalue hc (Or.inr (Or.inl rfl))
      cases htail' with
      | comma hmembers' => rw [ih hmembers' hrest]

end RequotedTwice

/-! ## A report with one member without quotes -/

/-- The object with these members. -/
def braced (members : List Char) : List Char := '\x7b' :: (members ++ ['\x7d'])

/-- Members behind one without quotes. -/
def besideBare (k v members : List Char) : List Char := k ++ ':' :: (v ++ ',' :: members)

section

variable {k v members : List Char} {pairs : List (String × String)} {m : Dict String}

theorem getLast?_braced (members : List Char) : (braced members).getLast? = some '\x7d' := by
  rw [braced, ← List.cons_append, List.getLast?_concat]

theorem objectText_of_strict (h : readStrictReport (braced members) = .ok m) :
    ∃ pairs, ObjectText Literal (braced members) pairs ∧ m = Dict.ofPairs pairs := by
  obtain ⟨w, object, w', pairs, hw, hw', hobject, hcs, rfl⟩ := readWhole_readMap_spec h
  have hsame := between_of_braces hw hw' (hcs ▸ rfl) (hcs ▸ getLast?_braced members)
  exact ⟨pairs, hcs.trans hsame ▸ hobject, rfl⟩

theorem membersText_of_object {token : List Char → String → Prop}
    (h : ObjectText token (braced members) pairs) (hne : pairs ≠ []) :
    MembersText token (members ++ ['\x7d']) pairs := by
  generalize hbraced : braced members = object at h
  cases h with
  | empty _ => exact absurd rfl hne
  | members hmembers =>
      cases hbraced
      exact hmembers

theorem not_nameAhead_quote {closes : Char → Bool} (hquote : closes '"' = false) {w : List Char}
    (hw : AllBlank w) (rest : List Char) : ¬ NameAhead closes (w ++ '"' :: rest) := by
  intro h
  obtain ⟨w', name, _, _, _, -, hname, -, -, rfl⟩ := h.of_append_quote hquote
  obtain @⟨first, more, hfirst, -⟩ := hname
  have hblank := startsName_of_ends (Or.inl (hw first (by simp)))
  rw [hfirst] at hblank
  cases hblank

theorem exists_quote_of_members (h : MembersText Literal members pairs) :
    ∃ w rest, AllBlank w ∧ members = w ++ '"' :: rest := by
  obtain ⟨_, v, tail, _, _, _, ⟨w, _, w', hw, -, ⟨body, -, rfl⟩, rfl⟩, -, -, rfl, -⟩ :=
    h.exists_cons
  refine ⟨w, body ++ '"' :: (w' ++ ':' :: (v ++ tail)), hw, ?_⟩
  simp only [List.append_assoc, List.cons_append, List.nil_append]

theorem NameText.not_mem {name : List Char} (h : NameText name) {c : Char}
    (hc : continuesName c = false) : c ∉ name := by
  intro hmem
  rw [h.all c hmem] at hc
  cases hc

/-- A name right behind an opening character gets its quotes. -/
theorem quoteNames_tight {opens closes : Char → Bool}
    (hcloses : ∀ c, closes c = true → Separator c) {c close : Char} (hopens : opens c = true)
    (hclose : closes close = true) {name : List Char} (hname : NameText name) (rest : List Char) :
    quoteNames opens closes (c :: (name ++ close :: rest)) =
      c :: '"' :: (name ++ '"' :: close :: quoteNames opens closes rest) := by
  have h : quoteNames opens closes (c :: ([] ++ name ++ ([] ++ [close]) ++ rest)) = _ :=
    quoteNames_name hcloses hopens Text.allBlank_nil hname Text.allBlank_nil hclose
  simpa using h

/-- The member without quotes gets them, and the passes go on behind it. -/
theorem quoted_besideBare (hk : NameText k) (hv : NameText v)
    (h : MembersText Literal (members ++ ['\x7d']) pairs) :
    quoteValues (quoteKeys (braced (besideBare k v members))) =
      '\x7b' :: ('"' :: (k ++ ['"']) ++ ':' :: ('"' :: (v ++ ['"']) ++
        ',' :: quoteValues (quoteKeys (members ++ ['\x7d'])))) := by
  obtain ⟨w, rest, hw, hmembers⟩ := exists_quote_of_members h
  have hplain (c : Char) (hc : c ∈ v) : (decide (c = '\x7b') || decide (c = ',')) = false := by
    have hbrace : c ≠ '\x7b' := fun h => hv.not_mem (by decide) (h ▸ hc)
    have hcomma : c ≠ ',' := fun h => hv.not_mem (by decide) (h ▸ hc)
    simp [hbrace, hcomma]
  -- The comma behind the value opens a key, but a quote comes next there and no name.
  have hnone : ¬ NameAhead (fun c => c = ':') (members ++ ['\x7d']) := by
    rw [hmembers]
    exact not_nameAhead_quote rfl hw rest
  have hkeys := calc
    quoteKeys (braced (besideBare k v members))
      = quoteKeys ('\x7b' :: (k ++ ':' :: (v ++ ',' :: (members ++ ['\x7d'])))) := by
        simp only [braced, besideBare, List.append_assoc, List.cons_append]
    _ = '\x7b' :: '"' :: (k ++ '"' :: ':' :: quoteKeys (v ++ ',' :: (members ++ ['\x7d']))) :=
        quoteNames_tight separator_of_key rfl rfl hk _
    _ = '\x7b' :: '"' :: (k ++ '"' :: ':' :: (v ++ ',' :: quoteKeys (members ++ ['\x7d']))) := by
        rw [quoteKeys, quoteNames_append separator_of_key hplain,
          quoteNames_cons separator_of_key fun h => hnone h.2]
  have hname : ':' ∉ k := hk.not_mem (by decide)
  have hcolon : ':' ∉ '\x7b' :: '"' :: (k ++ ['"']) := by simp [hname]
  have hfront (c : Char) (hc : c ∈ '\x7b' :: '"' :: (k ++ ['"'])) : decide (c = ':') = false :=
    decide_eq_false fun h => hcolon (h ▸ hc)
  calc quoteValues (quoteKeys (braced (besideBare k v members)))
      = quoteValues ('\x7b' :: '"' :: (k ++ ['"']) ++
          ':' :: (v ++ ',' :: quoteKeys (members ++ ['\x7d']))) := by
        rw [hkeys]
        simp only [List.append_assoc, List.cons_append, List.nil_append]
    _ = '\x7b' :: '"' :: (k ++ ['"']) ++
          quoteValues (':' :: (v ++ ',' :: quoteKeys (members ++ ['\x7d']))) :=
        quoteNames_append separator_of_value hfront _
    _ = '\x7b' :: '"' :: (k ++ ['"']) ++
          ':' :: '"' :: (v ++ '"' :: ',' :: quoteValues (quoteKeys (members ++ ['\x7d']))) :=
        congrArg _ (quoteNames_tight separator_of_value rfl rfl hv _)
    _ = _ := by simp only [List.append_assoc, List.cons_append, List.nil_append]

theorem literal_of_name (h : NameText k) : Literal ('"' :: (k ++ ['"'])) (String.ofList k) :=
  ⟨k, by rw [String.toList_ofList]; exact content_of_continuesName h.all, rfl⟩

/-- As the text is written, the first member is the one without quotes. -/
theorem reportText_besideBare (hk : NameText k) (hv : NameText v)
    (h : MembersText Literal (members ++ ['\x7d']) pairs) :
    ReportText (braced (besideBare k v members))
      ((String.ofList k, String.ofList v) :: pairs) := by
  rw [braced, besideBare, List.append_assoc, List.cons_append, List.append_assoc, List.cons_append]
  exact .members (.more (.of_token (.name hk)) (.of_token (.name hv)) (h.mono fun _ _ => .literal))

/-- If it is read at all, it is read as written. -/
theorem operations_besideBare (hk : NameText k) (hv : NameText v)
    (h : MembersText Literal (members ++ ['\x7d']) pairs) {operations : Dict String}
    (hread : readReport (braced (besideBare k v members)) = .ok operations) :
    operations = Dict.ofPairs ((String.ofList k, String.ofList v) :: pairs) := by
  obtain ⟨pairs', hbetween, rfl⟩ := readReport_spec hread
  have htext := hbetween.reportText rfl (getLast?_braced _)
  rw [htext.unique (reportText_besideBare hk hv h)]

/-- A name without quotes is no JSON. -/
theorem not_strict_besideBare (hk : NameText k) (operations : Dict String) :
    readStrictReport (braced (besideBare k v members)) ≠ .ok operations := by
  intro hstrict
  obtain ⟨pairs, hobject, -⟩ := objectText_of_strict hstrict
  obtain @⟨first, more, hfirst, -⟩ := hk
  generalize hbraced : braced _ = object at hobject
  cases hobject with
  | empty hw =>
      have hmembers := (List.cons.inj hbraced).2
      rw [List.append_cancel_right_eq] at hmembers
      have hblank := startsName_of_ends (Or.inl (hw first (hmembers ▸ List.mem_cons_self)))
      rw [hfirst] at hblank
      cases hblank
  | members hmembers =>
      obtain ⟨w, rest, hw, rfl⟩ := exists_quote_of_members hmembers
      have heq : [] ++ first :: _ = w ++ '"' :: rest := (List.cons.inj hbraced).2
      obtain ⟨-, hheads⟩ := Text.append_cons_inj_of_all (List.forall_mem_nil _) hw
        (json_isBlank_of_head (Or.inr hfirst)) (by decide) heq
      exact ne_of_startsName hfirst (List.cons.inj hheads).1

/-- What is behind the first member of an object that is read has to be members. -/
theorem exists_members_behind {key value : String} (hk : Spaced Literal k key)
    (hv : Spaced Literal v value) {behind : List Char}
    (h : readStrictReport ('\x7b' :: (k ++ ':' :: (v ++ ',' :: behind))) = .ok m) :
    ∃ members pairs w, MembersText Literal members pairs ∧ behind = members ++ w := by
  obtain ⟨w, object, w', pairs, hw, -, hobject, hcs, -⟩ := readWhole_readMap_spec h
  have hnil : w = [] := by
    cases w with
    | nil => rfl
    | cons c w =>
        have hhead := (List.cons.inj hcs).1
        exact absurd (hhead ▸ hw c List.mem_cons_self) (by decide)
  rw [hnil, List.nil_append] at hcs
  cases hobject with
  | @empty w₁ hw₁ =>
      obtain ⟨w₂, _, w₃, hw₂, -, ⟨body, -, rfl⟩, rfl⟩ := hk
      have hinside := (List.cons.inj hcs).2
      simp only [List.append_assoc, List.cons_append, List.append_eq] at hinside
      obtain ⟨-, hheads⟩ := Text.append_cons_inj_of_all hw₂ hw₁ (by decide) (by decide) hinside
      cases hheads
  | members hmembers =>
      obtain ⟨k', v', tail, _, _, _, hk', hv', htail, rfl, -⟩ := hmembers.exists_cons
      obtain ⟨c, rest, rfl, hc⟩ := exists_separator_of_tail htail
      have hinside := (List.cons.inj hcs).2
      simp only [List.append_assoc, List.cons_append, List.append_eq] at hinside
      obtain ⟨-, -, hbehind⟩ :=
        spaced_literal_unique hk hk' (Or.inl rfl) (Or.inl rfl) hinside
      obtain ⟨-, rfl, rfl⟩ :=
        spaced_literal_unique hv hv' (Or.inr (Or.inl rfl)) hc hbehind
      cases htail with
      | comma hrest => exact ⟨_, _, w', hrest, rfl⟩

/-- It is read exactly if all the strings in it are plain. -/
theorem exists_readReport_besideBare (hk : NameText k) (hv : NameText v)
    (h : MembersText Literal (members ++ ['\x7d']) pairs) :
    (∃ operations, readReport (braced (besideBare k v members)) = .ok operations) ↔
      MembersText PlainLiteral (members ++ ['\x7d']) pairs := by
  rw [← quoted_members_iff h]
  constructor
  · rintro ⟨operations, hread⟩
    rw [readReport] at hread
    split at hread
    · next hstrict => exact absurd hstrict (not_strict_besideBare hk _)
    · rw [quoted_besideBare hk hv h] at hread
      obtain ⟨members', pairs', w, hmembers', hbehind⟩ := exists_members_behind
        (.of_token (literal_of_name hk)) (.of_token (literal_of_name hv)) hread
      have htwice := requotedTwice_quoted (members ++ ['\x7d'])
      rw [hbehind] at htwice ⊢
      exact (htwice.eq_of_members h hmembers').symm
  · intro hsame
    have hobject : ObjectText Literal (quoteValues (quoteKeys (braced (besideBare k v members))))
        ((String.ofList k, String.ofList v) :: pairs) := by
      rw [quoted_besideBare hk hv h, hsame]
      exact .members (.more (.of_token (literal_of_name hk)) (.of_token (literal_of_name hv)) h)
    have hquoted := readWhole_readMap_append .nil .nil hobject
    rw [List.nil_append, List.append_nil] at hquoted
    rw [readReport]
    split
    · exact ⟨_, rfl⟩
    · exact ⟨_, hquoted⟩

variable {s : String} {fields : List String}

theorem parse_of_readReport {report : List Char} (hchain : ChainText (beforeBrace s) fields)
    (hreport : ReportAt s report) :
    parse s = match readReport report with
      | .ok operations => .ok ⟨fields, some operations⟩
      | .error cause => .error (.malformedReport s cause) := by
  rw [parse_of_reportAt hreport, readChain_eq_ok.mpr hchain]
  cases readReport report <;> rfl

/-- With plain strings only, the strings are read as they are without the name. -/
theorem parse_of_plain (hchain : ChainText (beforeBrace s) fields)
    (hreport : ReportAt s (braced (besideBare k v members))) (hk : NameText k) (hv : NameText v)
    (hplain : ObjectText PlainLiteral (braced members) pairs) (hne : pairs ≠ [])
    (hnew : (Dict.ofPairs pairs).get? (String.ofList k) = none) :
    parse s = .ok ⟨fields,
      some ((Dict.ofPairs pairs).insert (String.ofList k) (String.ofList v))⟩ := by
  have hmembers := membersText_of_object hplain hne
  have hliteral := hmembers.mono fun _ _ h => h.1
  obtain ⟨operations, hread⟩ := (exists_readReport_besideBare hk hv hliteral).mpr hmembers
  have hlast : Dict.ofPairs ((String.ofList k, String.ofList v) :: pairs) =
      (Dict.ofPairs pairs).insert (String.ofList k) (String.ofList v) :=
    Dict.ext (Entries.ofPairs_cons_of_get? hnew)
  rw [parse_of_readReport hchain hreport, hread, operations_besideBare hk hv hliteral hread, hlast]

/-- Strings beside a member without quotes are read as they are without it, as long as they are plain.
If one of them is not, nothing is read at all, although the object of these strings is JSON. -/
theorem parse_besideBare (hchain : ChainText (beforeBrace s) fields)
    (hreport : ReportAt s (braced (besideBare k v members))) (hk : NameText k) (hv : NameText v)
    (hstrict : readStrictReport (braced members) = .ok m) (hne : m ≠ ∅)
    (hnew : m.get? (String.ofList k) = none) :
    ((∃ pairs, ObjectText PlainLiteral (braced members) pairs) →
      parse s = .ok ⟨fields, some (m.insert (String.ofList k) (String.ofList v))⟩) ∧
    ((¬ ∃ pairs, ObjectText PlainLiteral (braced members) pairs) →
      ∃ cause, parse s = .error (.malformedReport s cause)) := by
  obtain ⟨pairs, hobject, rfl⟩ := objectText_of_strict hstrict
  have hsome : pairs ≠ [] := by
    rintro rfl
    exact hne rfl
  constructor
  · rintro ⟨pairs', hplain⟩
    have hsame : pairs' = pairs := ReportText.unique
      (hplain.mono fun _ _ h => .literal h.1) (hobject.mono fun _ _ => .literal)
    subst hsame
    exact parse_of_plain hchain hreport hk hv hplain hsome hnew
  · intro hbroken
    have hread := exists_readReport_besideBare hk hv (membersText_of_object hobject hsome)
    rw [parse_of_readReport hchain hreport]
    cases hresult : readReport (braced (besideBare k v members)) with
    | ok operations => exact absurd ⟨pairs, .members (hread.mp ⟨operations, hresult⟩)⟩ hbroken
    | error cause => exact ⟨cause, rfl⟩

end

/-- A colon and a comma in the string beside the name, but no name between them. -/
theorem parse_besideBare_spaced :
    parse "tag \x7bk:v,\"count\": \"1: 2, b\"\x7d " =
      .ok ⟨["tag"], some ((Dict.ofPairs [("count", "1: 2, b")]).insert "k" "v")⟩ := by
  have hkey : PlainLiteral (writeString "count") "count" :=
    ⟨literal_writeString "count", by decide +kernel⟩
  have hvalue : PlainLiteral (writeString "1: 2, b") "1: 2, b" :=
    ⟨literal_writeString "1: 2, b", by decide +kernel⟩
  have hobject : ObjectText PlainLiteral (braced "\"count\": \"1: 2, b\"".toList)
      [("count", "1: 2, b")] :=
    .members (.last (.of_token hkey)
      ((Spaced.of_token hvalue).append_left (List.forall_mem_singleton.mpr rfl)))
  have hfield : FieldText ['t', 'a', 'g', ' '] "tag" :=
    fieldText_append (by decide) (by decide)
  have hchain : ChainText (beforeBrace "tag \x7bk:v,\"count\": \"1: 2, b\"\x7d ") ["tag"] := by
    rw [show beforeBrace "tag \x7bk:v,\"count\": \"1: 2, b\"\x7d " = ['t', 'a', 'g', ' '] by decide]
    exact .last hfield
  have hk : NameText ['k'] := ⟨rfl, nofun⟩
  have hv : NameText ['v'] := ⟨rfl, nofun⟩
  exact (parse_besideBare hchain ⟨rfl, by decide, [' '], by decide, by decide +kernel⟩ hk hv
    (by decide +kernel) (by decide) (by decide)).1 ⟨_, hobject⟩

/-- Two names in the string beside the name: behind a comma and behind a colon. -/
theorem parse_besideBare_fails_separators :
    parse "tag \x7b\"count\":\"a, b:c\"\x7d" =
        .ok ⟨["tag"], some (Dict.ofPairs [("count", "a, b:c")])⟩ ∧
      parse "tag \x7bk:v,\"count\":\"a, b:c\"\x7d" =
        .error (.malformedReport "tag \x7bk:v,\"count\":\"a, b:c\"\x7d"
          .expectedCommaOrBrace) := by
  decide +kernel

end Rollup.Breakdown
