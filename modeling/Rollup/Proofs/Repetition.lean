import Rollup.Proofs.Assembly

/-!
# Blanks and repetitions are absorbed

A list of breakdowns may be padded: with entries that are missing or blank, and
with entries that stood in it before, whatever blanks are put around them. The
padded list has the same roots as the list itself. At a blank entry the walk
goes on as it was. At a repeated one it finds the tree of the entry it repeats,
and by then a tree of that name is kept, either that tree or the one that it
was skipped for. That is the invariant: every text so far has a tree, and its
name is taken. It says as well that a repeated entry cannot be the first that
fails, so the padded list fails as the list does.
-/

namespace Rollup.RequestDraft

open Rollup.Aggregation

/-- A text with blanks around it. -/
def Surrounds (padded text : String) : Prop :=
  ∃ w w', Text.allBlank w = true ∧ Text.allBlank w' = true ∧ padded.toList = w ++ text.toList ++ w'

/-- The second list is the first with entries put in: missing and blank ones anywhere, and
repetitions of entries that stand before. Those before the two lists are given in front. -/
inductive Padding : List (Option String) → List (Option String) → List (Option String) → Prop
  | done {before : List (Option String)} : Padding before [] []
  | entry {before rest padded : List (Option String)} (entry : Option String)
      (behind : Padding (entry :: before) rest padded) :
      Padding before (entry :: rest) (entry :: padded)
  | missing {before rest padded : List (Option String)} (behind : Padding before rest padded) :
      Padding before rest (none :: padded)
  | blank {before rest padded : List (Option String)} {text : String}
      (allBlank : Text.allBlank text.toList = true) (behind : Padding before rest padded) :
      Padding before rest (some text :: padded)
  | repeated {before rest padded : List (Option String)} {text copy : String}
      (mem : some text ∈ before) (surrounds : Surrounds copy text)
      (behind : Padding before rest padded) :
      Padding before rest (some copy :: padded)

theorem entryText?_of_allBlank {text : String} (h : Text.allBlank text.toList = true) :
    entryText? (some text) = none := by
  have htrim : Text.trimString text = "" := by
    rw [Text.trimString, Text.trim_of_allBlank h]
  rw [entryText?, Option.map_some, htrim]
  rfl

theorem Surrounds.entryText?_eq {copy text : String} (h : Surrounds copy text) :
    entryText? (some copy) = entryText? (some text) := by
  obtain ⟨w, w', hw, hw', hcopy⟩ := h
  have htrim : Text.trimString copy = Text.trimString text := by
    rw [Text.trimString, hcopy, Text.trim_append_append hw hw']
    rfl
  rw [entryText?, entryText?, Option.map_some, htrim]
  rfl

/-- The texts of some entries all have a tree, of a name that is taken. -/
def Absorbed (options : Options) (kept : List Aggregation) (before : List (Option String)) : Prop :=
  ∀ entry ∈ before, ∀ text, entryText? entry = some text →
    ∃ t, textTree options text = .ok t ∧ t.name ∈ kept.map name

theorem Absorbed.cons_of_none {options : Options} {kept : List Aggregation}
    {before : List (Option String)} (h : Absorbed options kept before) {entry : Option String}
    (hentry : entryText? entry = none) : Absorbed options kept (entry :: before) := by
  refine List.forall_mem_cons.mpr ⟨fun text htext => ?_, h⟩
  rw [hentry] at htext
  cases htext

theorem mem_names_keepNew {kept : List Aggregation} {t : Aggregation} {taken : String} :
    taken ∈ (keepNew kept t).map name ↔ taken ∈ kept.map name ∨ taken = t.name := by
  by_cases hmem : t.name ∈ kept.map name
  · rw [keepNew_of_mem hmem, iff_self_or]
    rintro rfl
    exact hmem
  · rw [keepNew_of_not_mem hmem, List.map_append, List.mem_append, List.map_singleton,
      List.mem_singleton]

/-- One more tree is kept, or has a name that is taken. -/
theorem Absorbed.cons_of_some {options : Options} {kept : List Aggregation}
    {before : List (Option String)} (h : Absorbed options kept before) {entry : Option String}
    {text : String} {t : Aggregation} (hentry : entryText? entry = some text)
    (htree : textTree options text = .ok t) :
    Absorbed options (keepNew kept t) (entry :: before) := by
  refine List.forall_mem_cons.mpr ⟨fun other hother => ?_, fun other hother text' htext' => ?_⟩
  · rw [hentry] at hother
    cases hother
    exact ⟨t, htree, mem_names_keepNew.mpr (Or.inr rfl)⟩
  · obtain ⟨t', htree', htaken⟩ := h other hother text' htext'
    exact ⟨t', htree', mem_names_keepNew.mpr (Or.inl htaken)⟩

theorem Padding.value_roots_eq {options : Options} {ctx : LogContext}
    {before entries padded : List (Option String)} (h : Padding before entries padded) :
    ∀ {kept : List Aggregation}, Absorbed options kept before →
      (roots options ctx kept padded).value = (roots options ctx kept entries).value := by
  induction h with
  | done => intro kept _; rfl
  | entry entry _ ih =>
      intro kept habsorbed
      cases hentry : entryText? entry with
      | none =>
          rw [value_roots_blank hentry, value_roots_blank hentry]
          exact ih (habsorbed.cons_of_none hentry)
      | some text =>
          rw [value_roots_cons hentry, value_roots_cons hentry]
          cases htree : textTree options text with
          | error cause => rfl
          | ok t => exact ih (habsorbed.cons_of_some hentry htree)
  | missing _ ih =>
      intro kept habsorbed
      rw [value_roots_blank rfl]
      exact ih habsorbed
  | blank hblank _ ih =>
      intro kept habsorbed
      rw [value_roots_blank (entryText?_of_allBlank hblank)]
      exact ih habsorbed
  | @repeated _ _ _ text copy hmem hsurrounds _ ih =>
      intro kept habsorbed
      have hcopy := hsurrounds.entryText?_eq
      cases htext : entryText? (some text) with
      | none =>
          rw [value_roots_blank (hcopy.trans htext)]
          exact ih habsorbed
      | some trimmed =>
          -- The repeated tree is built again, and dropped again for its name.
          obtain ⟨t, htree, htaken⟩ := habsorbed _ hmem trimmed htext
          rw [value_roots_cons (hcopy.trans htext)]
          simp only [htree, keepNew_of_mem htaken]
          exact ih habsorbed

/-- Padding a list of breakdowns with blanks and repetitions gives the same request, or the same
error. -/
theorem prepare_of_padding {d : RequestDraft} {padded : List (Option String)}
    (h : Padding [] d.breakdowns padded) :
    { d with breakdowns := padded }.prepare.value = d.prepare.value := by
  have hroots : (roots d.options d.logContext [] padded).value =
      (roots d.options d.logContext [] d.breakdowns).value :=
    h.value_roots_eq fun entry hentry => absurd hentry List.not_mem_nil
  rw [value_prepare, value_prepare]
  show (if d.window.start.before d.window.stop then
    (roots d.options d.logContext [] padded).value.map fun trees =>
      (d.complete d.filter.value trees).value else _) = _
  rw [hroots]

/-- The breakdowns `tag/time` and `host`, with blanks and both of them once more. -/
def paddedPair : List (Option String) :=
  [none, some "tag/time", some " \t", some " tag/time\n", some "host", some "host ", none,
    some "tag/time"]

theorem prepare_paddedPair :
    Padding [] (oneDay ["tag/time", "host"]).breakdowns paddedPair ∧
      ∃ r, (oneDay ["tag/time", "host"]).prepare.value = .ok r ∧
        r.aggregations.map name = ["by_tag_time", "by_host", "tag", "host"] ∧
        { oneDay ["tag/time", "host"] with breakdowns := paddedPair }.prepare.value = .ok r := by
  have htag : Surrounds " tag/time\n" "tag/time" :=
    ⟨[' '], ['\n'], by decide, by decide, by decide⟩
  have hhost : Surrounds "host " "host" := ⟨[], [' '], by decide, by decide, by decide⟩
  have hsame : Surrounds "tag/time" "tag/time" := ⟨[], [], by decide, by decide, by decide⟩
  have hpadding : Padding [] (oneDay ["tag/time", "host"]).breakdowns paddedPair :=
    .missing <| .entry _ <| .blank (by decide) <| .repeated (by decide) htag <| .entry _ <|
      .repeated (by decide) hhost <| .missing <| .repeated (by decide) hsame .done
  have hnames : ((oneDay ["tag/time", "host"]).prepare.value.toOption.map fun r =>
      r.aggregations.map name) = some ["by_tag_time", "by_host", "tag", "host"] := by
    decide +kernel
  obtain ⟨r, hr, hroots⟩ := exists_of_map_prepare hnames
  exact ⟨hpadding, r, hr, hroots, (prepare_of_padding hpadding).trans hr⟩

end Rollup.RequestDraft
