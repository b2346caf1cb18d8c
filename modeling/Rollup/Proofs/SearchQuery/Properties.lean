import Rollup.Proofs.Entries
import Rollup.Proofs.Text
import Rollup.SearchQuery

/-!
# What a query says about a key

The properties of a query are kept in a list, and of each key only the first.
So what a query says about a key is decided by its items alone: the value is
that of the first property of the key, wherever it stands among properties of
other keys and terms. `FirstSaid` is that rule, and both ways of asking a query,
by looking a key up and by going through the list, come down to it.

The key of a property is what stands in front of a colon and is made of word
characters. No other text is ever a key.
-/

namespace Rollup.SearchQuery

/-- The first property of a key, among some items, has the value. -/
inductive FirstSaid (key value : String) : List QueryItem → Prop
  | here {item : QueryItem} {rest : List QueryItem} (said : item.prop? = some (key, value)) :
      FirstSaid key value (item :: rest)
  | there {item : QueryItem} {rest : List QueryItem}
      (unsaid : ∀ other, item.prop? ≠ some (key, other)) (behind : FirstSaid key value rest) :
      FirstSaid key value (item :: rest)

/-! ## The first of each key -/

theorem keys_firstOfKeys_nodup (pairs : List (String × String)) :
    ((firstOfKeys pairs).map Prod.fst).Nodup := by
  induction pairs with
  | nil => exact List.nodup_nil
  | cons first rest ih =>
      rw [firstOfKeys, List.map_cons, List.nodup_cons]
      refine ⟨fun hmem => ?_, ih.sublist (List.filter_sublist.map _)⟩
      obtain ⟨pair, hpair, hkey⟩ := List.mem_map.mp hmem
      exact of_decide_eq_true (List.mem_filter.mp hpair).2 hkey

/-- A key is found among the first of each key as it is found among all. -/
theorem get?_firstOfKeys (pairs : List (String × String)) (key : String) :
    Entries.get? key (firstOfKeys pairs) = Entries.get? key pairs := by
  induction pairs with
  | nil => rfl
  | cons first rest ih =>
      obtain ⟨k, v⟩ := first
      rw [firstOfKeys, Entries.get?_cons, Entries.get?_cons,
        Entries.get?_filter (keys_firstOfKeys_nodup rest), ih]
      split
      · rfl
      · next hkey =>
          -- No entry of this key is dropped for having the first one's key.
          simp only [hkey, ne_eq, not_false_eq_true, decide_true]
          cases Entries.get? key rest <;> rfl

theorem prop?_eq_get? (q : SearchQuery) (key : String) :
    q.prop? key = Entries.get? key q.props := by
  rw [prop?]
  induction q.props with
  | nil => rfl
  | cons first rest ih =>
      obtain ⟨k, v⟩ := first
      rw [Entries.get?_cons, List.find?_cons]
      by_cases hkey : key = k
      · simp [hkey]
      · simp [hkey, Ne.symm hkey, ih]

/-! ## The first of each key, among items -/

theorem get?_filterMap_prop? {items : List QueryItem} {key value : String} :
    Entries.get? key (items.filterMap QueryItem.prop?) = some value ↔
      FirstSaid key value items := by
  induction items with
  | nil => exact ⟨nofun, nofun⟩
  | cons item rest ih =>
      cases hitem : item.prop? with
      | none =>
          rw [List.filterMap_cons_none hitem, ih]
          constructor
          · exact .there (by simp [hitem])
          · rintro (⟨hsaid⟩ | ⟨-, hbehind⟩)
            · rw [hitem] at hsaid
              cases hsaid
            · exact hbehind
      | some pair =>
          obtain ⟨k, v⟩ := pair
          rw [List.filterMap_cons_some hitem, Entries.get?_cons]
          split
          · next hkey =>
              subst hkey
              constructor
              · rintro ⟨⟩
                exact .here hitem
              · rintro (⟨hsaid⟩ | ⟨hunsaid, -⟩)
                · rw [hitem] at hsaid
                  cases hsaid
                  rfl
                · exact absurd hitem (hunsaid v)
          · next hkey =>
              rw [ih]
              constructor
              · exact .there (by simp [hitem, Ne.symm hkey])
              · rintro (⟨hsaid⟩ | ⟨-, hbehind⟩)
                · rw [hitem] at hsaid
                  cases hsaid
                  exact absurd rfl hkey
                · exact hbehind

theorem prop?_parse {text key value : String} :
    (parse text).prop? key = some value ↔ FirstSaid key value (items text.toList) := by
  rw [prop?_eq_get?, parse, get?_firstOfKeys, get?_filterMap_prop?]

/-- The properties of a query are those that are said first of their key. -/
theorem mem_props_parse {text key value : String} :
    (key, value) ∈ (parse text).props ↔ FirstSaid key value (items text.toList) := by
  have hkeys : ((parse text).props.map Prod.fst).Nodup := keys_firstOfKeys_nodup _
  rw [← prop?_parse, prop?_eq_get?, ← Entries.get?_ofPairs hkeys,
    Entries.get?_ofPairs_eq_some hkeys]

theorem FirstSaid.exists_item {items : List QueryItem} {key value : String}
    (h : FirstSaid key value items) : ∃ item ∈ items, item.prop? = some (key, value) := by
  induction h with
  | here hsaid => exact ⟨_, List.mem_cons_self, hsaid⟩
  | there _ _ ih =>
      obtain ⟨item, hitem, hsaid⟩ := ih
      exact ⟨item, List.mem_cons_of_mem _ hitem, hsaid⟩

/-- The terms of a query are the items that are no properties, but for an empty quotation. -/
theorem mem_terms_parse {text term : String} :
    term ∈ (parse text).terms ↔ .term term.toList ∈ items text.toList ∧ term ≠ "" := by
  rw [parse, List.mem_filterMap]
  constructor
  · rintro ⟨item, hitem, hterm⟩
    cases item with
    | property key value => cases hterm
    | term cs =>
        rw [QueryItem.term?] at hterm
        split at hterm
        · cases hterm
        · next hcs =>
            cases hterm
            rw [String.toList_ofList]
            exact ⟨hitem, mt String.ofList_eq_empty_iff.mp hcs⟩
  · rintro ⟨hitem, hne⟩
    refine ⟨_, hitem, ?_⟩
    rw [QueryItem.term?, if_neg (mt String.toList_eq_nil_iff.mp hne), String.ofList_toList]

/-! ## Keys are words -/

/-- A text is a word: it is not empty, and made of word characters. -/
def WordText (text : String) : Prop := text ≠ "" ∧ ∀ c ∈ text.toList, Text.isWord c = true

instance (text : String) : Decidable (WordText text) :=
  decidable_of_iff (text ≠ "" ∧ text.toList.all Text.isWord = true)
    (and_congr_right fun _ => List.all_eq_true)

theorem wordText_of_propertyRun? {cs rest : List Char} {item : QueryItem}
    (h : propertyRun? cs = some (item, rest)) :
    ∃ key value, item.prop? = some (key, value) ∧ WordText key := by
  rw [propertyRun?] at h
  split at h
  · split at h
    · cases h
    · next hword =>
        obtain ⟨⟨value, after⟩, -, heq⟩ := Option.map_eq_some_iff.mp h
        cases heq
        refine ⟨_, _, rfl, ?_, ?_⟩
        · exact fun hempty => hword (String.ofList_eq_empty_iff.mp hempty)
        · rw [String.toList_ofList]
          exact fun c hc => List.mem_takeWhile_imp hc
  · cases h

/-- What holds of what is read as an item holds of all items. -/
theorem forall_items {P : QueryItem → Prop}
    (hrun : ∀ {cs rest : List Char} {item : QueryItem}, itemRun? cs = some (item, rest) → P item)
    (cs : List Char) : ∀ item ∈ items cs, P item := by
  fun_induction items cs with
  | case1 => simp
  | case2 c cs item rest hread ih => exact List.forall_mem_cons.mpr ⟨hrun hread, ih⟩
  | case3 c cs hread ih => exact ih

theorem wordText_of_mem_items {cs : List Char} {item : QueryItem} (hitem : item ∈ items cs)
    {key value : String} (hsaid : item.prop? = some (key, value)) : WordText key := by
  refine forall_items (P := fun item => ∀ key value, item.prop? = some (key, value) → WordText key)
    (fun {cs rest item} hread key value hsaid => ?_) cs item hitem key value hsaid
  rw [itemRun?] at hread
  split at hread
  · next found hfound =>
      cases hread
      obtain ⟨key', value', hsaid', hword⟩ := wordText_of_propertyRun? hfound
      rw [hsaid] at hsaid'
      cases hsaid'
      exact hword
  · obtain ⟨⟨text, after⟩, -, heq⟩ := Option.map_eq_some_iff.mp hread
    cases heq
    cases hsaid

/-! ## A single property -/

/-- A text can stand as a value without quotes around it. -/
def BareValue (text : String) : Prop :=
  text ≠ "" ∧ ∀ c ∈ text.toList, Text.isBlank c = false ∧ c ≠ '"'

instance (text : String) : Decidable (BareValue text) :=
  decidable_of_iff
    (text ≠ "" ∧ text.toList.all (fun c => decide (Text.isBlank c = false ∧ c ≠ '"')) = true)
    (and_congr_right fun _ => List.all_eq_true.trans (by simp only [decide_eq_true_eq]))

theorem valueRun?_of_visible {cs : List Char} (hne : cs ≠ [])
    (hvisible : ∀ c ∈ cs, Text.isBlank c = false ∧ c ≠ '"') : valueRun? cs = some (cs, []) := by
  cases cs with
  | nil => exact absurd rfl hne
  | cons c cs =>
      obtain ⟨⟨hblank, hquote⟩, hrest⟩ := List.forall_mem_cons.mp hvisible
      have hall : ∀ c ∈ cs, isVisible c = true := fun c hc => by
        rw [isVisible, (hrest c hc).1]
        rfl
      rw [valueRun?, if_neg (by simp [hblank])]
      simp only [if_neg hquote]
      rw [List.takeWhile_eq_self_iff.mpr hall, List.dropWhile_eq_nil_iff.mpr hall]

theorem items_of_itemRun? {cs rest : List Char} {item : QueryItem}
    (h : itemRun? cs = some (item, rest)) : items cs = item :: items rest := by
  cases cs with
  | nil => cases h
  | cons c cs =>
      rw [items]
      split
      · next found after hread =>
          rw [h] at hread
          cases hread
          rfl
      · next hread =>
          rw [h] at hread
          cases hread

theorem items_of_itemRun?_eq_none {c : Char} {cs : List Char} (h : itemRun? (c :: cs) = none) :
    items (c :: cs) = items cs := by
  rw [items]
  split
  · next hread =>
      rw [h] at hread
      cases hread
  · rfl

/-- A word, a colon and what is a value are a property. -/
theorem propertyRun?_of_valueRun? {key : String} (hkey : WordText key) {cs value rest : List Char}
    (h : valueRun? cs = some (value, rest)) :
    propertyRun? (key.toList ++ ':' :: cs) = some (.property key.toList value, rest) := by
  have hcolon : Text.isWord ':' = false := by decide +kernel
  have htake : (key.toList ++ ':' :: cs).takeWhile Text.isWord = key.toList := by
    rw [Text.takeWhile_append_cons_of_neg hcolon, List.takeWhile_eq_self_iff.mpr hkey.2]
  have hdrop : (key.toList ++ ':' :: cs).dropWhile Text.isWord = ':' :: cs := by
    rw [Text.dropWhile_append_cons_of_neg hcolon, List.dropWhile_eq_nil_iff.mpr hkey.2,
      List.nil_append]
  have hne : key.toList ≠ [] := mt String.toList_eq_nil_iff.mp hkey.1
  rw [propertyRun?, hdrop, htake]
  simp only [if_neg hne, h, Option.map_some]

theorem itemRun?_of_propertyRun? {cs : List Char} {found : QueryItem × List Char}
    (h : propertyRun? cs = some found) : itemRun? cs = some found := by
  rw [itemRun?, h]

/-- A word, a colon and a bare value are one property. -/
theorem items_property {key value : String} (hkey : WordText key) (hvalue : BareValue value) :
    items (key ++ ":" ++ value).toList = [.property key.toList value.toList] := by
  have htext : (key ++ ":" ++ value).toList = key.toList ++ ':' :: value.toList := by
    simp
  have hvalue' : value.toList ≠ [] := mt String.toList_eq_nil_iff.mp hvalue.1
  have hrun := propertyRun?_of_valueRun? hkey (valueRun?_of_visible hvalue' hvalue.2)
  rw [htext, items_of_itemRun? (itemRun?_of_propertyRun? hrun), items]

end Rollup.SearchQuery
