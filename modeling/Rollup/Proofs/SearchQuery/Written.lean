import Rollup.Proofs.SearchQuery.Properties

/-!
# Queries that are written with quotes

A query can be put together from properties and phrases, each with its text in
quotes, and blanks around them. Such a query is read as what it was put together
from. An item starts at the first character that is not blank, and the quote
that closes it is the next one after the quote that opens it, since there is
none in the text. So one piece is taken off at a time, whatever stands in its
quotes, and what follows starts behind the closing quote. A phrase is no
property even if it has the form of one: it starts with a quote, and a quote
stands in no word.

Of the properties the first of each key counts. That is what the standard
library's `List.eraseDupsBy` leaves of them, and what its `List.lookup` finds.
-/

namespace Rollup.SearchQuery

/-! ## The first of each key, by the standard library -/

theorem firstOfKeys_filter (keep : String → Bool) (pairs : List (String × String)) :
    firstOfKeys (pairs.filter fun pair => keep pair.1) =
      (firstOfKeys pairs).filter fun pair => keep pair.1 := by
  induction pairs with
  | nil => rfl
  | cons first rest ih =>
      rw [firstOfKeys, List.filter_cons, List.filter_cons]
      split
      · rw [firstOfKeys, ih]
        exact congrArg _ (List.filter_comm _ _ _)
      · next hkeep =>
          -- No pair that is kept has the key of the first one.
          rw [ih, List.filter_filter]
          refine List.filter_congr fun pair _ => ?_
          by_cases hkey : pair.1 = first.1
          · simp [hkey, hkeep]
          · simp [hkey]

theorem firstOfKeys_eq_eraseDupsBy (pairs : List (String × String)) :
    firstOfKeys pairs = pairs.eraseDupsBy fun a b => a.1 == b.1 := by
  induction h : pairs.length using Nat.strong_induction_on generalizing pairs with
  | _ n ih =>
      cases pairs with
      | nil => rfl
      | cons first rest =>
          have hlength : (rest.filter fun pair => decide (pair.1 ≠ first.1)).length < n := by
            rw [← h]
            exact Nat.lt_succ_of_le (List.length_filter_le _ rest)
          have hsame : (rest.filter fun pair => decide (pair.1 ≠ first.1)) =
              rest.filter fun pair => decide ((pair.1 == first.1) = false) := by simp
          calc firstOfKeys (first :: rest)
              = first :: firstOfKeys (rest.filter fun pair => decide (pair.1 ≠ first.1)) := by
                rw [firstOfKeys, ← firstOfKeys_filter (fun key => decide (key ≠ first.1))]
            _ = first :: (rest.filter fun pair => decide (pair.1 ≠ first.1)).eraseDupsBy
                  fun a b => a.1 == b.1 := by rw [ih _ hlength _ rfl]
            _ = (first :: rest).eraseDupsBy fun a b => a.1 == b.1 := by
                rw [List.eraseDupsBy_cons, hsame]

theorem get?_eq_lookup (key : String) (entries : List (String × String)) :
    Entries.get? key entries = entries.lookup key := by
  induction entries with
  | nil => rfl
  | cons entry rest ih =>
      obtain ⟨k, v⟩ := entry
      rw [Entries.get?_cons, List.lookup_cons, ih]
      by_cases hkey : key = k
      · simp [hkey]
      · rw [if_neg hkey, beq_eq_false_iff_ne.mpr hkey]

/-! ## Pieces -/

/-- A piece that a query is put together from. There is no quote in what is put in quotes. -/
inductive Piece
  | property (key value : String) (word : WordText key) (unquoted : '"' ∉ value.toList)
  | phrase (text : String) (nonempty : text ≠ "") (unquoted : '"' ∉ text.toList)

namespace Piece

/-- The piece as a text. -/
def write : Piece → List Char
  | property key value _ _ => key.toList ++ ':' :: '"' :: (value.toList ++ ['"'])
  | phrase text _ _ => '"' :: (text.toList ++ ['"'])

def item : Piece → QueryItem
  | property key value _ _ => .property key.toList value.toList
  | phrase text _ _ => .term text.toList

def property? : Piece → Option (String × String)
  | property key value _ _ => some (key, value)
  | phrase .. => none

def phrase? : Piece → Option String
  | property .. => none
  | phrase text _ _ => some text

theorem prop?_item (piece : Piece) : piece.item.prop? = piece.property? := by
  cases piece with
  | property key value => rw [item, QueryItem.prop?, String.ofList_toList, String.ofList_toList,
      property?]
  | phrase text => rfl

theorem term?_item (piece : Piece) : piece.item.term? = piece.phrase? := by
  cases piece with
  | property key value => rfl
  | phrase text hne =>
      rw [item, QueryItem.term?, if_neg (mt String.toList_eq_nil_iff.mp hne),
        String.ofList_toList, phrase?]

end Piece

/-- A text is put together from pieces, with blanks before each of them and at the end. -/
inductive Spells : List Piece → List Char → Prop
  | nil {w : List Char} (blank : Text.allBlank w = true) : Spells [] w
  | cons {w : List Char} {piece : Piece} {pieces : List Piece} {rest : List Char}
      (blank : Text.allBlank w = true) (behind : Spells pieces rest) :
      Spells (piece :: pieces) (w ++ (piece.write ++ rest))

/-! ## One piece at a time -/

theorem quotedRun?_append_cons {cs : List Char} (h : '"' ∉ cs) (rest : List Char) :
    quotedRun? (cs ++ '"' :: rest) = some (cs, rest) := by
  rw [quotedRun?, Text.dropWhile_ne_append_cons h, Text.takeWhile_ne_append_cons h]

theorem valueRun?_quoted {cs : List Char} (h : '"' ∉ cs) (rest : List Char) :
    valueRun? ('"' :: (cs ++ '"' :: rest)) = some (cs, rest) := by
  have hblank : ¬Text.isBlank '"' = true := by decide
  rw [valueRun?, if_neg hblank, quotedRun?_append_cons h]
  rfl

/-- Where no word starts, no property does. -/
theorem propertyRun?_of_not_word {c : Char} (h : Text.isWord c = false) (cs : List Char) :
    propertyRun? (c :: cs) = none := by
  have hword : ¬Text.isWord c = true := by simp [h]
  rw [propertyRun?, List.dropWhile_cons_of_neg hword, List.takeWhile_cons_of_neg hword]
  split
  · rw [if_pos rfl]
  · rfl

/-- A piece is read to its closing quote, whatever follows. -/
theorem itemRun?_write (piece : Piece) (rest : List Char) :
    itemRun? (piece.write ++ rest) = some (piece.item, rest) := by
  cases piece with
  | property key value hword hvalue =>
      have hrun := propertyRun?_of_valueRun? hword (valueRun?_quoted hvalue rest)
      simpa [Piece.write, Piece.item] using itemRun?_of_propertyRun? hrun
  | phrase text _ htext =>
      have hquote : Text.isWord '"' = false := by decide +kernel
      have hrun := valueRun?_quoted htext rest
      rw [Piece.write, List.cons_append, List.append_assoc, List.singleton_append, itemRun?,
        propertyRun?_of_not_word hquote, hrun]
      rfl

theorem itemRun?_of_isBlank {c : Char} (h : Text.isBlank c = true) (cs : List Char) :
    itemRun? (c :: cs) = none := by
  rw [itemRun?, propertyRun?_of_not_word (Text.isWord_of_isBlank h), valueRun?, if_pos h]
  rfl

/-- Blanks before an item are passed over. -/
theorem items_append_of_allBlank {w : List Char} (hw : Text.allBlank w = true) (cs : List Char) :
    items (w ++ cs) = items cs := by
  induction w with
  | nil => rfl
  | cons c w ih =>
      rw [Text.allBlank, List.all_cons, Bool.and_eq_true] at hw
      rw [List.cons_append, items_of_itemRun?_eq_none (itemRun?_of_isBlank hw.1 _), ih hw.2]

/-- The items of a query are the pieces it was put together from. -/
theorem Spells.items_eq {pieces : List Piece} {text : List Char} (h : Spells pieces text) :
    items text = pieces.map Piece.item := by
  induction h with
  | nil hw =>
      have hend := items_append_of_allBlank hw []
      rwa [List.append_nil, items] at hend
  | cons hw _ ih =>
      rw [items_append_of_allBlank hw, items_of_itemRun? (itemRun?_write _ _), ih, List.map_cons]

/-! ## The whole query -/

/-- The terms of a query that is put together from pieces are its phrases, in order, and its
properties are those among the pieces, in order, the first of each key. Nothing else is ever a
property, whatever the phrases look like. -/
theorem parse_of_spells {pieces : List Piece} {text : String} (h : Spells pieces text.toList) :
    (parse text).terms = pieces.filterMap Piece.phrase? ∧
      (parse text).props =
        (pieces.filterMap Piece.property?).eraseDupsBy (fun a b => a.1 == b.1) ∧
      (∀ key, (parse text).prop? key = (pieces.filterMap Piece.property?).lookup key) ∧
      ∀ entry ∈ (parse text).props, ∃ piece ∈ pieces, piece.property? = some entry := by
  have hprops : (items text.toList).filterMap QueryItem.prop? =
      pieces.filterMap Piece.property? := by
    rw [h.items_eq, List.filterMap_map]
    exact List.filterMap_congr fun piece _ => piece.prop?_item
  have hterms : (items text.toList).filterMap QueryItem.term? =
      pieces.filterMap Piece.phrase? := by
    rw [h.items_eq, List.filterMap_map]
    exact List.filterMap_congr fun piece _ => piece.term?_item
  refine ⟨hterms, ?_, fun key => ?_, fun entry hentry => ?_⟩
  · rw [parse, hprops, firstOfKeys_eq_eraseDupsBy]
  · rw [prop?_eq_get?, parse, get?_firstOfKeys, hprops, get?_eq_lookup]
  · obtain ⟨item, hitem, hsaid⟩ := (mem_props_parse.mp hentry).exists_item
    rw [← List.mem_filterMap, ← hprops]
    exact List.mem_filterMap.mpr ⟨item, hitem, hsaid⟩

/-- A phrase in the form of a property, a key that comes twice, a value that is empty, one that goes
over two lines, and blanks of several kinds. -/
def mixedQuery : String := "\thost:\"a: b\nc\" \"host:x\"\r\n_1:\"\"  host:\"d\"\u3000"

theorem parse_mixedQuery :
    (parse mixedQuery).terms = ["host:x"] ∧
      (parse mixedQuery).props = [("host", "a: b\nc"), ("_1", "")] ∧
      (parse mixedQuery).prop? "host" = some "a: b\nc" := by
  have hhost : WordText "host" := by decide +kernel
  have hnumber : WordText "_1" := by decide +kernel
  have htext : mixedQuery.toList =
      "\t".toList ++ ("host".toList ++ ':' :: '"' :: ("a: b\nc".toList ++ ['"']) ++
        (" ".toList ++ ('"' :: ("host:x".toList ++ ['"']) ++
          ("\r\n".toList ++ ("_1".toList ++ ':' :: '"' :: ("".toList ++ ['"']) ++
            ("  ".toList ++ ("host".toList ++ ':' :: '"' :: ("d".toList ++ ['"']) ++
              "\u3000".toList))))))) := by
    decide +kernel
  have hspells : Spells
      [.property "host" "a: b\nc" hhost (by decide), .phrase "host:x" (by decide) (by decide),
        .property "_1" "" hnumber (by decide), .property "host" "d" hhost (by decide)]
      mixedQuery.toList := by
    rw [htext]
    exact .cons (by decide) (.cons (by decide) (.cons (by decide) (.cons (by decide)
      (.nil (by decide)))))
  obtain ⟨hterms, hprops, hprop, -⟩ := parse_of_spells hspells
  refine ⟨hterms, hprops.trans ?_, (hprop "host").trans ?_⟩
  · rfl
  · rfl

end Rollup.SearchQuery
