import Rollup.Proofs.SearchQuery.Written

/-!
# Queries one behind the other

A query that is put behind another, with blanks between, is read as if each
stood alone. A word, a bare value and a bare term end at the first blank at the
latest, so none of them goes on behind the text that it starts in, and a key
whose value would follow the blank has no value, as at the end of a text.

A quote is the one thing that looks further. It is closed by the next quote,
however far away, and if there is none it is a character like others. So it is
enough that one of the two texts has no quote. Quotes of the first text are then
closed within it or not at all, and for those of the second nothing has changed.
What is in front of the blanks may leave a quote open, or end in a key.
-/

namespace Rollup.SearchQuery

/-! ## Quotes -/

theorem quotedRun?_of_not_mem {cs : List Char} (h : '"' ∉ cs) : quotedRun? cs = none := by
  rw [quotedRun?, Text.dropWhile_ne_of_not_mem h]

/-- A quote is closed within the text, or by nothing behind it. -/
theorem quotedRun?_append {cs behind : List Char} (h : '"' ∉ behind) :
    quotedRun? (cs ++ behind) = (quotedRun? cs).map (Prod.map id (· ++ behind)) := by
  by_cases hquote : '"' ∈ cs
  · obtain ⟨front, rest, rfl, hfront⟩ := List.eq_append_cons_of_mem hquote
    rw [List.append_assoc, List.cons_append, quotedRun?_append_cons hfront,
      quotedRun?_append_cons hfront]
    rfl
  · have hnone : '"' ∉ cs ++ behind := List.not_mem_append hquote h
    rw [quotedRun?_of_not_mem hquote, quotedRun?_of_not_mem hnone]
    rfl

/-! ## One item -/

section Behind

variable {w : Char} {cs tail : List Char}

theorem valueRun?_append (hw : Text.isBlank w = true) (hquote : '"' ∉ cs ∨ '"' ∉ tail) :
    valueRun? (cs ++ w :: tail) = (valueRun? cs).map (Prod.map id (· ++ w :: tail)) := by
  have hvisible : isVisible w = false := by rw [isVisible, hw]; rfl
  cases cs with
  | nil => rw [List.nil_append, valueRun?, valueRun?, if_pos hw]; rfl
  | cons c cs =>
      rw [List.cons_append, valueRun?, valueRun?, Text.takeWhile_append_cons_of_neg hvisible,
        Text.dropWhile_append_cons_of_neg hvisible]
      split
      · rfl
      split
      · next hc =>
          -- The text starts with a quote, so there is none behind it.
          have htail : '"' ∉ w :: tail := by
            have hne : '"' ≠ w := by
              rintro rfl
              exact absurd hw (by decide)
            simpa [hc, hne] using hquote
          rw [quotedRun?_append htail]
          cases quotedRun? cs <;> rfl
      · rfl

theorem propertyRun?_append (hw : Text.isBlank w = true) (hquote : '"' ∉ cs ∨ '"' ∉ tail) :
    propertyRun? (cs ++ w :: tail) =
      (propertyRun? cs).map (Prod.map id (· ++ w :: tail)) := by
  have hword : Text.isWord w = false := Text.isWord_of_isBlank hw
  have hcolon : w ≠ ':' := by
    rintro rfl
    exact absurd hw (by decide)
  rw [propertyRun?, propertyRun?, Text.takeWhile_append_cons_of_neg hword,
    Text.dropWhile_append_cons_of_neg hword]
  have hsuffix := List.dropWhile_suffix (l := cs) Text.isWord
  cases hdrop : cs.dropWhile Text.isWord with
  | nil =>
      rw [List.nil_append]
      split
      · next heq => exact absurd (List.cons.inj heq).1 hcolon
      · rfl
  | cons c rest =>
      rw [List.cons_append]
      by_cases hc : c = ':'
      · subst hc
        simp only []
        split
        · rfl
        · have hrest : '"' ∉ rest ∨ '"' ∉ tail := hquote.imp_left fun hcs hmem =>
            hcs (hsuffix.mem (hdrop ▸ List.mem_cons_of_mem _ hmem))
          rw [valueRun?_append hw hrest]
          cases valueRun? rest <;> rfl
      · split
        · next heq => exact absurd (List.cons.inj heq).1 hc
        · split
          · next heq => exact absurd (List.cons.inj heq).1 hc
          · rfl

/-- What is read in front of a blank is read the same, whatever is behind the blank. -/
theorem itemRun?_append (hw : Text.isBlank w = true) (hquote : '"' ∉ cs ∨ '"' ∉ tail) :
    itemRun? (cs ++ w :: tail) = (itemRun? cs).map (Prod.map id (· ++ w :: tail)) := by
  rw [itemRun?, itemRun?, propertyRun?_append hw hquote, valueRun?_append hw hquote]
  cases propertyRun? cs with
  | some found => rfl
  | none => cases valueRun? cs <;> rfl

end Behind

/-! ## What an item leaves -/

theorem quotedRun?_suffix {cs text rest : List Char} (h : quotedRun? cs = some (text, rest)) :
    rest <:+ cs := by
  have hsuffix := List.dropWhile_suffix (l := cs) (· ≠ '"')
  rw [quotedRun?] at h
  split at h
  · cases h
  · next hdrop =>
      cases h
      rw [hdrop] at hsuffix
      exact (List.suffix_cons _ _).trans hsuffix

theorem valueRun?_suffix {cs value rest : List Char} (h : valueRun? cs = some (value, rest)) :
    rest <:+ cs := by
  cases cs with
  | nil => cases h
  | cons c cs =>
      have hvisible := (List.dropWhile_suffix (l := cs) isVisible).trans (List.suffix_cons c cs)
      simp only [valueRun?] at h
      split at h
      · cases h
      split at h
      · cases hquoted : quotedRun? cs with
        | none => rw [hquoted] at h; cases h; exact hvisible
        | some found =>
            rw [hquoted] at h
            cases h
            exact (quotedRun?_suffix hquoted).trans (List.suffix_cons c cs)
      · cases h
        exact hvisible

theorem propertyRun?_suffix {cs rest : List Char} {item : QueryItem}
    (h : propertyRun? cs = some (item, rest)) : rest <:+ cs := by
  have hsuffix := List.dropWhile_suffix (l := cs) Text.isWord
  rw [propertyRun?] at h
  split at h
  · next behind hdrop =>
      rw [hdrop] at hsuffix
      split at h
      · cases h
      · obtain ⟨⟨value, after⟩, hvalue, heq⟩ := Option.map_eq_some_iff.mp h
        cases heq
        exact (valueRun?_suffix hvalue).trans ((List.suffix_cons _ _).trans hsuffix)
  · cases h

theorem itemRun?_suffix {cs rest : List Char} {item : QueryItem}
    (h : itemRun? cs = some (item, rest)) : rest <:+ cs := by
  rw [itemRun?] at h
  split at h
  · next found hfound =>
      cases h
      exact propertyRun?_suffix hfound
  · obtain ⟨⟨text, after⟩, hvalue, heq⟩ := Option.map_eq_some_iff.mp h
    cases heq
    exact valueRun?_suffix hvalue

/-! ## All items -/

theorem items_append_cons {w : Char} (hw : Text.isBlank w = true) {tail : List Char}
    (cs : List Char) (hquote : '"' ∉ cs ∨ '"' ∉ tail) :
    items (cs ++ w :: tail) = items cs ++ items (w :: tail) := by
  fun_induction items cs with
  | case1 => rfl
  | case2 c cs item rest hread ih =>
      have hrest : '"' ∉ rest ∨ '"' ∉ tail :=
        hquote.imp_left fun hcs hmem => hcs ((itemRun?_suffix hread).mem hmem)
      have hread' : itemRun? (c :: cs ++ w :: tail) = some (item, rest ++ w :: tail) := by
        rw [itemRun?_append hw hquote, hread]
        rfl
      rw [items_of_itemRun? hread', ih hrest, List.cons_append]
  | case3 c cs hread ih =>
      have hrest : '"' ∉ cs ∨ '"' ∉ tail :=
        hquote.imp_left fun hcs hmem => hcs (List.mem_cons_of_mem c hmem)
      have hread' : itemRun? (c :: (cs ++ w :: tail)) = none := by
        rw [← List.cons_append, itemRun?_append hw hquote, hread]
        rfl
      rw [List.cons_append, items_of_itemRun?_eq_none hread', ih hrest]

/-- The items of two texts with blanks between them are those of the one, and then those of the
other, if one of the two has no quote. -/
theorem items_append_of_blanks {w : List Char} (hw : Text.allBlank w = true) (hne : w ≠ [])
    {cs ds : List Char} (hquote : '"' ∉ cs ∨ '"' ∉ ds) :
    items (cs ++ (w ++ ds)) = items cs ++ items ds := by
  have hall := items_append_of_allBlank hw ds
  cases w with
  | nil => exact absurd rfl hne
  | cons c w =>
      rw [Text.allBlank, List.all_cons, Bool.and_eq_true] at hw
      have hblanks : '"' ∉ w := Text.not_mem_of_allBlank (by decide) hw.2
      rw [List.cons_append] at hall ⊢
      rw [items_append_cons hw.1 cs (hquote.imp_right (List.not_mem_append hblanks)), hall]

/-! ## The first of each key -/

/-- Of what comes behind, only new keys count. -/
theorem firstOfKeys_append (front behind : List (String × String)) :
    firstOfKeys (front ++ behind) =
      firstOfKeys front ++
        (firstOfKeys behind).filter fun entry => entry.1 ∉ (firstOfKeys front).map Prod.fst := by
  induction front with
  | nil => simp [firstOfKeys]
  | cons first rest ih =>
      rw [List.cons_append, firstOfKeys, ih, List.filter_append, List.filter_filter, firstOfKeys,
        List.cons_append]
      refine congrArg _ (congrArg _ (List.filter_congr fun entry _ => ?_))
      by_cases hkey : entry.1 = first.1
      · simp [hkey]
      · -- A key that is not the first one's is kept where it stands in the rest.
        simp [hkey]

/-- Two queries with blanks between them are read as the one and then the other, if one of the two
has no quote. The first property of a key counts, and it may be in either. -/
theorem parse_joined {front blanks behind : String} (hblank : Text.allBlank blanks.toList = true)
    (hne : blanks ≠ "") (hquote : '"' ∉ front.toList ∨ '"' ∉ behind.toList) :
    items (front ++ blanks ++ behind).toList = items front.toList ++ items behind.toList ∧
      (parse (front ++ blanks ++ behind)).terms = (parse front).terms ++ (parse behind).terms ∧
      (parse (front ++ blanks ++ behind)).props =
        (parse front).props ++
          (parse behind).props.filter fun entry => entry.1 ∉ (parse front).props.map Prod.fst := by
  have hitems : items (front ++ blanks ++ behind).toList =
      items front.toList ++ items behind.toList := by
    rw [String.toList_append, String.toList_append, List.append_assoc]
    exact items_append_of_blanks hblank (mt String.toList_eq_nil_iff.mp hne) hquote
  refine ⟨hitems, ?_, ?_⟩
  · simp only [parse, hitems, List.filterMap_append]
  · simp only [parse, hitems, List.filterMap_append]
    exact firstOfKeys_append _ _

/-- A quote that is left open and a key without a value, and behind them a key that comes again. -/
theorem parse_joined_openQuote :
    (parse ("host:\"a b tag:" ++ "\u3000\t" ++ "tag:x host:c d")).terms = ["b", "tag:", "d"] ∧
      (parse ("host:\"a b tag:" ++ "\u3000\t" ++ "tag:x host:c d")).props =
        [("host", "\"a"), ("tag", "x")] := by
  obtain ⟨-, hterms, hprops⟩ := @parse_joined "host:\"a b tag:" "\u3000\t" "tag:x host:c d"
    (by decide) (by decide) (Or.inr (by decide))
  refine ⟨hterms.trans ?_, hprops.trans ?_⟩
  · decide +kernel
  · decide +kernel

/-- Quotes in both texts close each other. -/
example : (parse ("a:\"x" ++ " " ++ "y\"")).props = [("a", "x y")] := by decide +kernel

end Rollup.SearchQuery
