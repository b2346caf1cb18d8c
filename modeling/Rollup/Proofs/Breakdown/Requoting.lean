import Rollup.Proofs.Breakdown.Grammar
import Rollup.Proofs.Breakdown.ReportText

/-!
# Quotes put in

The passes that put quotes around names see a few characters at a time and
know nothing of literals, so they may well put a quote into the middle of one.
That cannot change what a report says. Such a quote ends the literal, and the
first letter of the name stands behind it, where an object needs a blank, a
colon, a comma or a brace: the text is no longer an object at all.

`Requoted` keeps what matters of a pass. Every character stays, except that a
name may get quotes, and never directly behind a backslash, so that no quote
that was put in is part of an escape. From an object on the far side of the
relation the members can then be taken back to the near side one token at a
time: a literal is the same literal there, or it is a name that got its quotes.
Both passes are of this kind, which gives the members in the text as written.
-/

namespace Rollup.Breakdown

/-- The second text is the first with quotes around some names. The flag tells whether a name may
have got its quotes right here, which is not so behind a backslash. -/
inductive Requoted : Bool → List Char → List Char → Prop
  | nil {here : Bool} : Requoted here [] []
  | keep {here : Bool} {c : Char} {s t : List Char} :
      Requoted (decide (c ≠ '\\')) s t → Requoted here (c :: s) (c :: t)
  | quote {name s t : List Char} :
      NameText name → Requoted true s t → Requoted true (name ++ s) ('"' :: (name ++ '"' :: t))

/-! ## Both passes requote -/

theorem bareName?_spec {closes : Char → Bool} {cs : List Char} {found : BareName}
    (h : bareName? closes cs = some found) :
    Text.allBlank found.before = true ∧ NameText found.name ∧
      (∃ w close, Text.allBlank w = true ∧ closes close = true ∧ found.after = w ++ [close]) ∧
      cs = found.before ++ found.name ++ found.after ++ found.rest := by
  rw [bareName?] at h
  split at h
  · cases h
  · next first more hfirst =>
      split at h
      · next hstart =>
          simp only [] at h
          split at h
          · cases h
          · next close rest hclose =>
              split at h
              · next hcloses =>
                cases h
                refine ⟨List.all_takeWhile, ⟨hstart, List.all_eq_true.mp List.all_takeWhile⟩,
                  ⟨_, close, List.all_takeWhile, hcloses, rfl⟩, ?_⟩
                calc cs = cs.takeWhile Text.isBlank ++ cs.dropWhile Text.isBlank :=
                      List.takeWhile_append_dropWhile.symm
                  _ = cs.takeWhile Text.isBlank ++ first ::
                        (more.takeWhile continuesName ++ more.dropWhile continuesName) := by
                      rw [hfirst, List.takeWhile_append_dropWhile]
                  _ = cs.takeWhile Text.isBlank ++ first :: (more.takeWhile continuesName ++
                        ((more.dropWhile continuesName).takeWhile Text.isBlank ++
                          close :: rest)) := by
                      simp only [← hclose, List.takeWhile_append_dropWhile]
                  _ = _ := by simp
              · cases h
      · cases h

theorem Requoted.keep_append {here : Bool} {s t : List Char} (w : List Char)
    (h : ∀ here, Requoted here s t) : Requoted here (w ++ s) (w ++ t) := by
  induction w generalizing here with
  | nil => exact h here
  | cons c w ih => exact .keep ih

/-- Behind characters that are no backslashes a name may get its quotes. -/
theorem Requoted.keep_of_ne {s t w : List Char} (hw : ∀ c ∈ w, c ≠ '\\')
    (h : Requoted true s t) : Requoted true (w ++ s) (w ++ t) := by
  induction w with
  | nil => exact h
  | cons c w ih =>
      refine .keep ?_
      rw [decide_eq_true (hw c List.mem_cons_self)]
      exact ih fun d hd => hw d (List.mem_cons_of_mem _ hd)

theorem requoted_quoteNames {opens closes : Char → Bool} (hopens : opens '\\' = false)
    (cs : List Char) : ∀ here, Requoted here cs (quoteNames opens closes cs) := by
  induction cs using quoteNames.induct opens closes with
  | case1 =>
      intro here
      rw [quoteNames]
      exact .nil
  | case2 c cs hc found hfound ih =>
      intro here
      obtain ⟨hbefore, hname, -, hcs⟩ := bareName?_spec hfound
      have hslash : c ≠ '\\' := by
        rintro rfl
        rw [hopens] at hc
        cases hc
      have hblank : ∀ d ∈ found.before, d ≠ '\\' := by
        rintro d hd rfl
        exact Text.not_mem_of_allBlank (by decide) hbefore hd
      have hquote := Requoted.quote hname (Requoted.keep_append found.after ih)
      have htail := Requoted.keep_of_ne hblank hquote
      rw [quoteNames, if_pos hc]
      split
      · next found' hfound' =>
          rw [hfound] at hfound'
          cases hfound'
          rw [hcs]
          simp only [List.append_assoc, List.cons_append] at htail ⊢
          refine .keep ?_
          rw [decide_eq_true hslash]
          exact htail
      · next hnone =>
          rw [hfound] at hnone
          cases hnone
  | case3 c cs hc hnone ih =>
      intro here
      rw [quoteNames, if_pos hc]
      split
      · next found hfound =>
          rw [hnone] at hfound
          cases hfound
      · exact .keep (ih _)
  | case4 c cs hc ih =>
      intro here
      rw [quoteNames, if_neg hc]
      exact .keep (ih _)

/-! ## Back over a pass

`s` is the text before a pass and what comes after `here` has been read
already. Each statement takes a piece of the object off the far text and finds
the same piece, or a name for a literal, at the start of `s`. -/

/-- Characters that are no quotes stood there before. -/
theorem Requoted.of_quote_not_mem {here : Bool} {s rest : List Char} (cs : List Char)
    (hcs : '"' ∉ cs) (h : Requoted here s (cs ++ rest)) :
    ∃ here' s', s = cs ++ s' ∧ Requoted here' s' rest := by
  induction cs generalizing here s with
  | nil => exact ⟨here, s, rfl, h⟩
  | cons c cs ih =>
      rw [List.mem_cons, not_or] at hcs
      rw [List.cons_append] at h
      generalize hfar : cs ++ rest = far at h
      cases h with
      | keep h =>
          obtain ⟨here', s', rfl, hrest⟩ := ih hcs.2 (hfar ▸ h)
          exact ⟨here', s', rfl, hrest⟩
      | quote _ _ => exact absurd rfl hcs.1

/-- The spelling of a character stood there before. -/
theorem Requoted.of_spelling {here : Bool} {s x rest : List Char} {c : Char}
    (hx : Json.Spelling x c) (h : Requoted here s (x ++ rest)) :
    ∃ here' s', s = x ++ s' ∧ Requoted here' s' rest := by
  have hdigit : Json.hexValue? '"' = none := by decide
  cases hx with
  | plain hquote _ _ =>
      refine h.of_quote_not_mem _ ?_
      rw [List.mem_singleton]
      exact Ne.symm hquote
  | letter _ =>
      -- Behind the backslash no name has got its quotes, so the letter stood there, even a quote.
      simp only [List.cons_append, List.nil_append] at h
      cases h with
      | keep h =>
          generalize hhere : decide ('\\' ≠ '\\') = here' at h
          cases h with
          | keep h => exact ⟨_, _, rfl, h⟩
          | quote _ _ => cases hhere
  | unit hdigits _ _ =>
      refine h.of_quote_not_mem _ ?_
      simp [hdigits.not_mem hdigit]
  | pair hhigh _ hlow _ =>
      refine h.of_quote_not_mem _ ?_
      simp [hhigh.not_mem hdigit, hlow.not_mem hdigit]

/-- What a literal holds stood there before, or a quote that was put in ends it before a name. -/
theorem Requoted.of_content {here : Bool} {s body text rest : List Char}
    (hbody : Json.Content body text) (h : Requoted here s (body ++ '"' :: rest)) :
    (∃ here' s', s = body ++ '"' :: s' ∧ Requoted here' s' rest) ∨
      ∃ c tail, rest = c :: tail ∧ startsName c = true := by
  induction hbody generalizing here s with
  | nil =>
      rw [List.nil_append] at h
      cases h with
      | keep h => exact Or.inl ⟨_, _, rfl, h⟩
      | quote hname _ =>
          obtain ⟨hfirst, -⟩ := hname
          exact Or.inr ⟨_, _, rfl, hfirst⟩
  | cons hx _ ih =>
      rw [List.append_assoc] at h
      obtain ⟨here', s', rfl, hbehind⟩ := h.of_spelling hx
      rcases ih hbehind with ⟨here'', s'', rfl, hrest⟩ | hname
      · exact Or.inl ⟨here'', s'', by rw [List.append_assoc], hrest⟩
      · exact Or.inr hname

/-- The characters of a name spell themselves. -/
theorem content_of_continuesName {name : List Char} (h : ∀ c ∈ name, continuesName c = true) :
    Json.Content name name := by
  induction name with
  | nil => exact .nil
  | cons c cs ih =>
      have hc := h c List.mem_cons_self
      have hcontrol : 0x20 ≤ c.toNat := by
        by_contra hlt
        have hcode := continuesName_code (by omega) hc
        omega
      have hplain : Json.Spelling [c] c := by
        refine .plain ?_ ?_ hcontrol
        · rintro rfl
          exact absurd hc (by decide)
        · rintro rfl
          exact absurd hc (by decide)
      exact .cons hplain (ih fun d hd => h d (List.mem_cons_of_mem _ hd))

theorem NameText.quote_not_mem {word : List Char} (h : NameText word) : '"' ∉ word := by
  intro hmem
  exact absurd (h.all _ hmem) (by decide)

/-- A token with an end behind it was a token before, and had the same text. -/
theorem Requoted.of_token {here : Bool} {s word rest : List Char} {text : String}
    (hword : Token word text) (hends : Ends rest) (h : Requoted here s (word ++ rest)) :
    ∃ word' here' s', s = word' ++ s' ∧ Token word' text ∧ Requoted here' s' rest := by
  obtain ⟨e, tail, rfl, he⟩ := hends
  have hname : startsName e ≠ true := by
    intro hstart
    have hcontinues := continuesName_of_startsName hstart
    rw [continuesName_of_ends he] at hcontinues
    cases hcontinues
  cases hword with
  | name hname =>
      obtain ⟨here', s', rfl, hrest⟩ := h.of_quote_not_mem _ hname.quote_not_mem
      exact ⟨_, here', s', rfl, .name hname, hrest⟩
  | literal hliteral =>
      obtain ⟨body, hbody, rfl⟩ := hliteral
      simp only [List.cons_append, List.append_assoc, List.nil_append] at h
      generalize hfar : body ++ '"' :: e :: tail = far at h
      cases h with
      | keep h =>
          subst hfar
          rcases h.of_content hbody with ⟨here', s', rfl, hrest⟩ | ⟨_, _, heq, hstart⟩
          · exact ⟨_, here', s', by simp, .literal ⟨body, hbody, rfl⟩, hrest⟩
          · cases heq
            exact absurd hstart hname
      | quote hquoted h =>
          obtain ⟨rfl, htext, rfl⟩ :=
            hbody.unique (content_of_continuesName hquoted.all) hfar
          refine ⟨_, _, _, rfl, ?_, h⟩
          rw [← String.ofList_toList (s := text), htext]
          exact .name hquoted

theorem quote_not_mem_of_allBlank {w : List Char} (hw : Json.AllBlank w) : '"' ∉ w := by
  intro hmem
  exact absurd (hw _ hmem) (by decide)

theorem Requoted.of_spaced {here : Bool} {s k rest : List Char} {text : String} {e : Char}
    (hk : Json.Spaced Token k text) (he : Separator e) (h : Requoted here s (k ++ e :: rest)) :
    ∃ k' here' s', s = k' ++ e :: s' ∧ Json.Spaced Token k' text ∧ Requoted here' s' rest := by
  obtain ⟨w, word, w', hw, hw', hword, rfl⟩ := hk
  rw [List.append_assoc, List.append_assoc] at h
  obtain ⟨_, s₁, rfl, hwordFar⟩ := h.of_quote_not_mem w (quote_not_mem_of_allBlank hw)
  obtain ⟨word', _, s₂, rfl, hword', hbehind⟩ := hwordFar.of_token hword (ends_append hw' he)
  have hquote : '"' ∉ w' ++ [e] := by
    rw [List.mem_append, List.mem_singleton, not_or]
    refine ⟨quote_not_mem_of_allBlank hw', ?_⟩
    rcases he with rfl | rfl | rfl <;> decide
  rw [List.append_cons] at hbehind
  obtain ⟨here', s₃, rfl, hrest⟩ := hbehind.of_quote_not_mem _ hquote
  exact ⟨w ++ word' ++ w', here', s₃, by simp, ⟨w, word', w', hw, hw', hword', rfl⟩, hrest⟩

/-- Members were members before, with the same keys and values. -/
theorem Requoted.of_members {members rest : List Char} {pairs : List (String × String)}
    (hmembers : Json.MembersText Token members pairs) {here : Bool} {s : List Char}
    (h : Requoted here s (members ++ rest)) :
    ∃ members' here' s', s = members' ++ s' ∧ Json.MembersText Token members' pairs ∧
      Requoted here' s' rest := by
  induction hmembers generalizing here s with
  | last hkey hvalue =>
      simp only [List.append_assoc, List.cons_append, List.nil_append] at h
      obtain ⟨k', _, s₁, rfl, hkey', hcolon⟩ := h.of_spaced hkey (Or.inl rfl)
      obtain ⟨v', here', s₂, rfl, hvalue', hrest⟩ :=
        hcolon.of_spaced hvalue (Or.inr (Or.inr rfl))
      exact ⟨_, here', s₂, by simp, .last hkey' hvalue', hrest⟩
  | more hkey hvalue _ ih =>
      simp only [List.append_assoc, List.cons_append] at h
      obtain ⟨k', _, s₁, rfl, hkey', hcolon⟩ := h.of_spaced hkey (Or.inl rfl)
      obtain ⟨v', _, s₂, rfl, hvalue', hcomma⟩ :=
        hcolon.of_spaced hvalue (Or.inr (Or.inl rfl))
      obtain ⟨members', here', s₃, rfl, hmembers', hrest⟩ := ih hcomma
      exact ⟨_, here', s₃, by simp, .more hkey' hvalue' hmembers', hrest⟩

theorem Requoted.of_object {object rest : List Char} {pairs : List (String × String)}
    (hobject : ReportText object pairs) {here : Bool} {s : List Char}
    (h : Requoted here s (object ++ rest)) :
    ∃ object' here' s', s = object' ++ s' ∧ ReportText object' pairs ∧
      Requoted here' s' rest := by
  cases hobject with
  | @empty w hw =>
      have hquote : '"' ∉ '\x7b' :: (w ++ ['\x7d']) := by
        simp [quote_not_mem_of_allBlank hw]
      obtain ⟨here', s', rfl, hrest⟩ := h.of_quote_not_mem _ hquote
      exact ⟨_, here', s', rfl, .empty hw, hrest⟩
  | members hmembers =>
      rw [List.cons_append, ← List.singleton_append] at h
      obtain ⟨_, s₁, rfl, hbehind⟩ := h.of_quote_not_mem ['\x7b'] (by decide)
      obtain ⟨members', here', s₂, rfl, hmembers', hrest⟩ := hbehind.of_members hmembers
      exact ⟨_, here', s₂, rfl, .members hmembers', hrest⟩

/-- An object between blanks, which is what the reader of a whole text takes. -/
def ReportBetween (cs : List Char) (pairs : List (String × String)) : Prop :=
  ∃ w object w', Json.AllBlank w ∧ Json.AllBlank w' ∧ ReportText object pairs ∧
    cs = w ++ object ++ w'

theorem ReportBetween.of_requoted {here : Bool} {s t : List Char}
    {pairs : List (String × String)} (ht : ReportBetween t pairs) (h : Requoted here s t) :
    ReportBetween s pairs := by
  obtain ⟨w, object, w', hw, hw', hobject, rfl⟩ := ht
  rw [List.append_assoc] at h
  obtain ⟨_, s₁, rfl, hbehind⟩ := h.of_quote_not_mem w (quote_not_mem_of_allBlank hw)
  obtain ⟨object', _, s₂, rfl, hobject', hend⟩ := hbehind.of_object hobject
  rw [← List.append_nil w'] at hend
  obtain ⟨_, s₃, rfl, hnil⟩ := hend.of_quote_not_mem w' (quote_not_mem_of_allBlank hw')
  cases hnil
  exact ⟨w, object', w', hw, hw', hobject', by simp⟩

/-! ## Reports -/

theorem readStrictReport_spec {cs : List Char} {operations : Dict String}
    (h : readStrictReport cs = .ok operations) :
    ∃ pairs, ReportBetween cs pairs ∧ operations = Dict.ofPairs pairs := by
  obtain ⟨w, object, w', pairs, hw, hw', hobject, hcs, hoperations⟩ :=
    Json.readWhole_readMap_spec h
  exact ⟨pairs, ⟨w, object, w', hw, hw', hobject.mono fun _ _ => .literal, hcs⟩, hoperations⟩

/-- Whichever way a report was read, its members are those of the text as written. -/
theorem readReport_spec {cs : List Char} {operations : Dict String}
    (h : readReport cs = .ok operations) :
    ∃ pairs, ReportBetween cs pairs ∧ operations = Dict.ofPairs pairs := by
  rw [readReport] at h
  split at h
  · next hstrict =>
      cases h
      exact readStrictReport_spec hstrict
  · obtain ⟨pairs, hquoted, hoperations⟩ := readStrictReport_spec h
    have hkeys : ReportBetween (quoteKeys cs) pairs :=
      hquoted.of_requoted (requoted_quoteNames (by decide) (quoteKeys cs) true)
    exact ⟨pairs, hkeys.of_requoted (requoted_quoteNames (by decide) cs true), hoperations⟩

/-- With its braces at both ends, a report has no blanks around it. -/
theorem between_of_braces {w object w' : List Char} (hw : Json.AllBlank w) (hw' : Json.AllBlank w')
    (hhead : (w ++ object ++ w').head? = some '\x7b')
    (hlast : (w ++ object ++ w').getLast? = some '\x7d') : w ++ object ++ w' = object := by
  have hnil : w = [] := by
    cases w with
    | nil => rfl
    | cons c w =>
        cases hhead
        exact absurd (hw _ List.mem_cons_self) (by decide)
  have hnil' : w' = [] := by
    rcases List.eq_nil_or_concat' w' with hnil' | ⟨front, c, rfl⟩
    · exact hnil'
    · rw [← List.append_assoc, List.getLast?_concat, Option.some.injEq] at hlast
      subst hlast
      have hblank := hw' _ (List.mem_append_right front List.mem_cons_self)
      exact absurd hblank (by decide)
  rw [hnil, hnil', List.nil_append, List.append_nil]

theorem ReportBetween.reportText {report : List Char} {pairs : List (String × String)}
    (h : ReportBetween report pairs) (hhead : report.head? = some '\x7b')
    (hlast : report.getLast? = some '\x7d') : ReportText report pairs := by
  obtain ⟨w, object, w', hw, hw', hobject, rfl⟩ := h
  rwa [between_of_braces hw hw' hhead hlast]

/-- The operations of a breakdown are the members of its report as written, the last of a key
winning. The report is an object in which a key or a value is a literal or a name without quotes; it
has one list of members, in which a literal counts for the text it spells and a name for itself. -/
theorem parse_report_sound {s : String} {fields : List String} {operations : Dict String}
    (h : parse s = .ok ⟨fields, some operations⟩) :
    ∃ report pairs, ReportAt s report ∧ ReportText report pairs ∧
      (∀ pairs', ReportText report pairs' → pairs' = pairs) ∧
      operations = Dict.ofPairs pairs := by
  obtain ⟨report, -, hreport, hread⟩ := (parse_eq_ok_some s fields operations).mp h
  obtain ⟨pairs, hbetween, hoperations⟩ := readReport_spec hread
  have htext := hbetween.reportText hreport.1 hreport.2.1
  exact ⟨report, pairs, hreport, htext, fun pairs' h' => h'.unique htext, hoperations⟩

/-- Names with and without quotes, a key that is written twice and two blanks at the end. -/
def mixedReport : String := "tag/time \x7bcount: avg, \"c\\u006funt\": \"sum\", dt:max\x7d  "

theorem mixedReport_sound :
    parse mixedReport =
        .ok ⟨["tag", "time"], some (Dict.ofPairs [("count", "sum"), ("dt", "max")])⟩ ∧
      ∃ report pairs, ReportAt mixedReport report ∧ ReportText report pairs ∧
        (∀ pairs', ReportText report pairs' → pairs' = pairs) ∧
        Dict.ofPairs [("count", "sum"), ("dt", "max")] = Dict.ofPairs pairs := by
  have hparse : parse mixedReport =
      .ok ⟨["tag", "time"], some (Dict.ofPairs [("count", "sum"), ("dt", "max")])⟩ := by
    decide +kernel
  exact ⟨hparse, parse_report_sound hparse⟩

end Rollup.Breakdown
