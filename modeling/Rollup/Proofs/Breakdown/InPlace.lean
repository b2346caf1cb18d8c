import Rollup.Proofs.Breakdown.Requoting

/-!
# Where quotes are put in

A pass changes a text exactly if somewhere in it a name stands between an
opening and a closing character. No quote is part of such a place, so a text
can be cut at its quotes and looked at piece by piece: a string literal has a
name in place or it has none, whatever stands around it.
-/

namespace Rollup.Breakdown

section

variable {opens closes : Char → Bool} {cs : List Char}

/-- A name comes first, with blanks around it or none, and then a closing character. -/
def NameAhead (closes : Char → Bool) (cs : List Char) : Prop :=
  ∃ w name w' close rest, Text.allBlank w = true ∧ NameText name ∧ Text.allBlank w' = true ∧
    closes close = true ∧ cs = w ++ name ++ (w' ++ [close]) ++ rest

/-- Somewhere a name stands between an opening and a closing character. -/
inductive NameBetween (opens closes : Char → Bool) : List Char → Prop
  | here {c : Char} {cs : List Char} :
      opens c = true → NameAhead closes cs → NameBetween opens closes (c :: cs)
  | later {c : Char} {cs : List Char} :
      NameBetween opens closes cs → NameBetween opens closes (c :: cs)

/-! ## What a pass changes -/

theorem isBlank_of_startsName {c : Char} (h : startsName c = true) : Text.isBlank c = false := by
  have hcode := startsName_code h
  rw [Bool.eq_false_iff, Ne, Text.isBlank_ascii_iff c (by omega)]
  omega

theorem continuesName_of_isBlank {c : Char} (h : Text.isBlank c = true) :
    continuesName c = false := by
  rw [continuesName, Text.isWord_of_isBlank h, Bool.false_or, decide_eq_false_iff_not]
  rintro rfl
  exact absurd h (by decide)

theorem isBlank_of_separator {c : Char} (h : Separator c) : Text.isBlank c = false := by
  rcases h with rfl | rfl | rfl <;> decide

/-- A name that comes first is found, with all that is around it. -/
theorem bareName?_append {w name w' rest : List Char} {close : Char} (hw : Text.allBlank w = true)
    (hname : NameText name) (hw' : Text.allBlank w' = true) (hcloses : closes close = true)
    (hclose : Separator close) :
    bareName? closes (w ++ name ++ (w' ++ [close]) ++ rest) =
      some ⟨w, name, w' ++ [close], rest⟩ := by
  rw [Text.allBlank_iff] at hw hw'
  obtain @⟨first, more, hfirst, hmore⟩ := hname
  obtain ⟨d, tail, htail, hd⟩ : ∃ d tail, w' ++ close :: rest = d :: tail ∧
      continuesName d = false := by
    cases w' with
    | nil => exact ⟨close, rest, rfl, continuesName_of_ends (Or.inr hclose)⟩
    | cons b w' => exact ⟨b, _, rfl, continuesName_of_isBlank (hw' b List.mem_cons_self)⟩
  have hd' : ¬ continuesName d = true := by simp [hd]
  have hfirst' : ¬ Text.isBlank first = true := by simp [isBlank_of_startsName hfirst]
  have hclose' : ¬ Text.isBlank close = true := by simp [isBlank_of_separator hclose]
  simp only [List.append_assoc, List.cons_append, List.nil_append]
  rw [bareName?, List.dropWhile_append_of_pos hw, List.dropWhile_cons_of_neg hfirst',
    List.takeWhile_append_of_pos hw, List.takeWhile_cons_of_neg hfirst']
  simp only [if_pos hfirst, htail, List.dropWhile_append_of_pos hmore,
    List.dropWhile_cons_of_neg hd', List.takeWhile_append_of_pos hmore,
    List.takeWhile_cons_of_neg hd']
  rw [← htail, List.dropWhile_append_of_pos hw', List.takeWhile_append_of_pos hw',
    List.dropWhile_cons_of_neg hclose', List.takeWhile_cons_of_neg hclose']
  simp [hcloses]

variable (hcloses : ∀ c, closes c = true → Separator c)
include hcloses

theorem bareName?_eq_none : bareName? closes cs = none ↔ ¬ NameAhead closes cs := by
  constructor
  · rintro hnone ⟨w, name, w', close, rest, hw, hname, hw', hclose, rfl⟩
    rw [bareName?_append hw hname hw' hclose (hcloses close hclose)] at hnone
    cases hnone
  · intro hahead
    cases hfound : bareName? closes cs with
    | none => rfl
    | some found =>
        obtain ⟨hw, hname, ⟨w', close, hw', hclose, hafter⟩, hcs⟩ := bareName?_spec hfound
        exact absurd ⟨_, _, w', close, _, hw, hname, hw', hclose, hafter ▸ hcs⟩ hahead

/-- A name in place gets its quotes, and the pass goes on behind it. -/
theorem quoteNames_name {w name w' rest : List Char} {c close : Char} (hopens : opens c = true)
    (hw : Text.allBlank w = true) (hname : NameText name) (hw' : Text.allBlank w' = true)
    (hclose : closes close = true) :
    quoteNames opens closes (c :: (w ++ name ++ (w' ++ [close]) ++ rest)) =
      c :: w ++ '"' :: name ++ '"' :: (w' ++ [close]) ++ quoteNames opens closes rest := by
  have hfound : bareName? closes (w ++ name ++ (w' ++ [close]) ++ rest) =
      some ⟨w, name, w' ++ [close], rest⟩ :=
    bareName?_append hw hname hw' hclose (hcloses close hclose)
  rw [quoteNames, if_pos hopens]
  split
  · next found' hfound' =>
      rw [hfound] at hfound'
      cases hfound'
      rfl
  · next hnone =>
      rw [hfound] at hnone
      cases hnone

theorem quoteNames_cons {c : Char} (h : ¬ (opens c = true ∧ NameAhead closes cs)) :
    quoteNames opens closes (c :: cs) = c :: quoteNames opens closes cs := by
  rw [quoteNames]
  split
  · next hopens =>
      have hnone := (bareName?_eq_none hcloses).mpr fun hahead => h ⟨hopens, hahead⟩
      split
      · next found hfound =>
          rw [hnone] at hfound
          cases hfound
      · rfl
  · rfl

/-- The pass goes on behind characters that open nothing. -/
theorem quoteNames_append {front : List Char} (h : ∀ c ∈ front, opens c = false)
    (cs : List Char) :
    quoteNames opens closes (front ++ cs) = front ++ quoteNames opens closes cs := by
  induction front with
  | nil => rfl
  | cons c front ih =>
      have hc : ¬ opens c = true := by simp [h c List.mem_cons_self]
      rw [List.cons_append, quoteNames_cons hcloses fun hhere => hc hhere.1,
        ih fun d hd => h d (List.mem_cons_of_mem _ hd), List.cons_append]

/-- A pass without a name in place changes nothing. -/
theorem quoteNames_of_not_nameBetween (h : ¬ NameBetween opens closes cs) :
    quoteNames opens closes cs = cs := by
  induction cs with
  | nil => rw [quoteNames]
  | cons c cs ih =>
      rw [quoteNames_cons hcloses fun hhere => h (.here hhere.1 hhere.2),
        ih fun hlater => h (.later hlater)]

end

theorem Requoted.length_le {here : Bool} {s t : List Char} (h : Requoted here s t) :
    s.length ≤ t.length := by
  induction h with
  | nil => exact Nat.le_refl _
  | keep _ ih => exact Nat.succ_le_succ ih
  | quote _ _ ih =>
      simp only [List.length_append, List.length_cons]
      omega

/-- A text that has got no quotes is the text that it was. -/
theorem Requoted.eq_of_length_le {here : Bool} {s t : List Char} (h : Requoted here s t)
    (hlength : t.length ≤ s.length) : s = t := by
  induction h with
  | nil => rfl
  | keep _ ih => rw [ih (Nat.le_of_succ_le_succ hlength)]
  | quote _ hrest _ =>
      have hle := hrest.length_le
      simp only [List.length_append, List.length_cons] at hlength
      omega

section

variable {opens closes : Char → Bool} {cs : List Char} (hopens : opens '\\' = false)
  (hcloses : ∀ c, closes c = true → Separator c)
include hopens hcloses

theorem quoteNames_ne_self {c : Char} (hc : opens c = true) (hahead : NameAhead closes cs) :
    quoteNames opens closes (c :: cs) ≠ c :: cs := by
  obtain ⟨w, name, w', close, rest, hw, hname, hw', hclose, rfl⟩ := hahead
  have hle : rest.length ≤ (quoteNames opens closes rest).length :=
    (requoted_quoteNames hopens rest true).length_le
  rw [quoteNames_name hcloses hc hw hname hw' hclose]
  intro heq
  have hlength := congrArg List.length heq
  simp only [List.length_append, List.length_cons] at hlength
  omega

/-- A pass changes a text exactly if a name stands in it in place. The pass takes the places from the
left, so a name may lose its place to one before it, but then that one gets its quotes. -/
theorem quoteNames_eq_self_iff :
    quoteNames opens closes cs = cs ↔ ¬ NameBetween opens closes cs := by
  refine ⟨fun heq hbetween => ?_, quoteNames_of_not_nameBetween hcloses⟩
  induction hbetween with
  | here hc hahead => exact quoteNames_ne_self hopens hcloses hc hahead heq
  | @later c cs _ ih =>
      by_cases hhere : opens c = true ∧ NameAhead closes cs
      · exact quoteNames_ne_self hopens hcloses hhere.1 hhere.2 heq
      · rw [quoteNames_cons hcloses hhere] at heq
        exact ih (List.cons.inj heq).2

end

/-! ## Cutting at quotes -/

section

variable {opens closes : Char → Bool}

theorem NameAhead.append_right {cs : List Char} (h : NameAhead closes cs) (more : List Char) :
    NameAhead closes (cs ++ more) := by
  obtain ⟨w, name, w', close, rest, hw, hname, hw', hclose, rfl⟩ := h
  exact ⟨w, name, w', close, rest ++ more, hw, hname, hw', hclose, List.append_assoc ..⟩

/-- Up to its closing character a place holds no quote. -/
theorem NameAhead.of_append_quote (hquote : closes '"' = false) {front more : List Char}
    (h : NameAhead closes (front ++ '"' :: more)) : NameAhead closes front := by
  obtain ⟨w, name, w', close, rest, hw, hname, hw', hclose, heq⟩ := h
  have hnot : '"' ∉ w ++ name ++ (w' ++ [close]) := by
    have hblank {w : List Char} (hw : Text.allBlank w = true) : '"' ∉ w :=
      Text.not_mem_of_allBlank (by decide) hw
    have hne : '"' ≠ close := by
      rintro rfl
      rw [hquote] at hclose
      cases hclose
    simp [hblank hw, hblank hw', hname.quote_not_mem, hne]
  rcases List.append_eq_append_iff.mp heq with ⟨t, hplace, hrest⟩ | ⟨t, rfl, -⟩
  · cases t with
    | nil =>
        rw [List.append_nil] at hplace
        exact ⟨w, name, w', close, [], hw, hname, hw', hclose, by rw [hplace, List.append_nil]⟩
    | cons c t =>
        rw [(List.cons.inj hrest).1] at hnot
        exact absurd (hplace ▸ List.mem_append_right front List.mem_cons_self) hnot
  · exact ⟨w, name, w', close, t, hw, hname, hw', hclose, rfl⟩

theorem NameBetween.append_left {cs : List Char} (h : NameBetween opens closes cs)
    (front : List Char) : NameBetween opens closes (front ++ cs) := by
  induction front with
  | nil => exact h
  | cons c front ih => exact .later ih

theorem NameBetween.append_right {cs : List Char} (h : NameBetween opens closes cs)
    (more : List Char) : NameBetween opens closes (cs ++ more) := by
  induction h with
  | here hopens hahead => exact .here hopens (hahead.append_right more)
  | later _ ih => exact .later ih

theorem nameBetween_append_quote (hopens : opens '"' = false) (hcloses : closes '"' = false)
    {front more : List Char} :
    NameBetween opens closes (front ++ '"' :: more) ↔
      NameBetween opens closes front ∨ NameBetween opens closes more := by
  constructor
  · intro h
    induction front with
    | nil =>
        cases h with
        | here hc _ =>
            rw [hopens] at hc
            cases hc
        | later h => exact Or.inr h
    | cons c front ih =>
        cases h with
        | here hc hahead => exact Or.inl (.here hc (hahead.of_append_quote hcloses))
        | later h => exact (ih h).imp_left .later
  · rintro (h | h)
    · exact h.append_right _
    · exact (NameBetween.later h).append_left front

/-- No name, no place. -/
theorem not_nameBetween_of_forall {cs : List Char} (h : ∀ c ∈ cs, startsName c = false) :
    ¬ NameBetween opens closes cs := by
  intro hbetween
  induction hbetween with
  | here _ hahead =>
      obtain ⟨w, name, w', close, rest, -, hname, -, -, rfl⟩ := hahead
      obtain @⟨first, more, hfirst, -⟩ := hname
      rw [h first (by simp)] at hfirst
      cases hfirst
  | later _ ih => exact ih fun c hc => h c (List.mem_cons_of_mem _ hc)

end

/-! ## Both passes -/

/-- A name stands in the place of a key, or in that of a value. -/
def NameInPlace (cs : List Char) : Prop :=
  NameBetween (fun c => c = '\x7b' || c = ',') (fun c => c = ':') cs ∨
    NameBetween (fun c => c = ':') (fun c => c = ',' || c = '\x7d') cs

section

variable {cs front more : List Char}

theorem separator_of_key (c : Char) (h : decide (c = ':') = true) : Separator c :=
  Or.inl (of_decide_eq_true h)

theorem separator_of_value (c : Char) (h : (decide (c = ',') || decide (c = '\x7d')) = true) :
    Separator c := Or.inr (by simpa using h)

theorem quoteKeys_eq_self_iff :
    quoteKeys cs = cs ↔ ¬ NameBetween (fun c => c = '\x7b' || c = ',') (fun c => c = ':') cs :=
  quoteNames_eq_self_iff rfl separator_of_key

theorem quoteValues_eq_self_iff :
    quoteValues cs = cs ↔ ¬ NameBetween (fun c => c = ':') (fun c => c = ',' || c = '\x7d') cs :=
  quoteNames_eq_self_iff rfl separator_of_value

/-- The passes leave a text as it is exactly if no name is in place. The second pass cannot undo what
the first has done, because a text only ever gets longer. -/
theorem quoted_eq_self_iff : quoteValues (quoteKeys cs) = cs ↔ ¬ NameInPlace cs := by
  rw [NameInPlace, not_or, ← quoteKeys_eq_self_iff, ← quoteValues_eq_self_iff]
  constructor
  · intro heq
    have hkeys : Requoted true cs (quoteKeys cs) := requoted_quoteNames rfl cs true
    have hvalues : (quoteKeys cs).length ≤ (quoteValues (quoteKeys cs)).length :=
      (requoted_quoteNames rfl (quoteKeys cs) true).length_le
    rw [heq] at hvalues
    have hsame := hkeys.eq_of_length_le hvalues
    rw [← hsame] at heq
    exact ⟨hsame.symm, heq⟩
  · rintro ⟨hkeys, hvalues⟩
    rw [hkeys, hvalues]

instance (cs : List Char) : Decidable (NameInPlace cs) :=
  decidable_of_iff (¬ quoteValues (quoteKeys cs) = cs) (by rw [quoted_eq_self_iff, not_not])

theorem NameInPlace.append_left (h : NameInPlace cs) (front : List Char) :
    NameInPlace (front ++ cs) :=
  h.imp (·.append_left front) (·.append_left front)

theorem NameInPlace.append_right (h : NameInPlace cs) (more : List Char) :
    NameInPlace (cs ++ more) :=
  h.imp (·.append_right more) (·.append_right more)

theorem nameInPlace_append_quote :
    NameInPlace (front ++ '"' :: more) ↔ NameInPlace front ∨ NameInPlace more := by
  simp only [NameInPlace]
  rw [nameBetween_append_quote rfl rfl, nameBetween_append_quote rfl rfl, or_or_or_comm]

theorem not_nameInPlace_nil : ¬ NameInPlace [] := by
  rintro (h | h) <;> cases h

/-- The quotes of a literal are not part of a place. -/
theorem nameInPlace_quoted {body : List Char} :
    NameInPlace ('"' :: (body ++ ['"'])) ↔ NameInPlace body := by
  rw [← List.nil_append ('"' :: _), nameInPlace_append_quote, or_iff_right not_nameInPlace_nil,
    nameInPlace_append_quote, or_iff_left not_nameInPlace_nil]

theorem not_nameInPlace_of_forall (h : ∀ c ∈ cs, startsName c = false) : ¬ NameInPlace cs :=
  not_or.mpr ⟨not_nameBetween_of_forall h, not_nameBetween_of_forall h⟩

end

end Rollup.Breakdown
