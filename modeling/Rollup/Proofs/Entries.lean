import Mathlib.Data.List.Forall2
import Rollup.Dict

/-!
# Entries made from pairs

`Entries.ofPairs` inserts one pair after the other, and a pair whose key is
there already replaces the entry. The look-up law says which pair wins: the
last of its key. When no key repeats nothing is replaced, so every pair is
found under its key and there are as many entries as pairs. That is the form
in which a rendered object is asked for here: the members of an object are
`ofPairs` of what was meant to be in it.

The keys of a dictionary ascend, so none repeats there, and dictionaries whose
entries agree one by one agree under every key. In the other direction, entries
that ascend are determined by what is found under each key, so an equality of
dictionaries can be shown key by key.
-/

namespace Rollup.Entries

variable {α β : Type}

theorem insertAll_cons (entries : Entries α) (pair : String × α)
    (rest : List (String × α)) :
    entries.insertAll (pair :: rest) =
      (entries.insert pair.1 pair.2).insertAll rest := rfl

theorem insertAll_append (entries : Entries α) (first second : List (String × α)) :
    entries.insertAll (first ++ second) =
      (entries.insertAll first).insertAll second := by
  rw [insertAll, insertAll, insertAll, List.foldl_append]

/-- A key that no pair has is found as before. -/
theorem get?_insertAll_of_not_mem {key : String} {pairs : List (String × α)}
    (h : key ∉ pairs.map Prod.fst) (entries : Entries α) :
    get? key (entries.insertAll pairs) = get? key entries := by
  induction pairs generalizing entries with
  | nil => rfl
  | cons pair rest ih =>
      rw [List.map_cons, List.mem_cons, not_or] at h
      rw [insertAll_cons, ih h.2, get?_insert, if_neg h.1]

/-- The last pair of a key wins. -/
theorem get?_insertAll_append_cons {key : String} {value : α}
    {first second : List (String × α)} (h : key ∉ second.map Prod.fst)
    (entries : Entries α) :
    get? key (entries.insertAll (first ++ (key, value) :: second)) = some value := by
  rw [insertAll_append, insertAll_cons, get?_insertAll_of_not_mem h, get?_insert,
    if_pos rfl]

theorem get?_ofPairs_of_mem {pairs : List (String × α)}
    (hnodup : (pairs.map Prod.fst).Nodup) {key : String} {value : α}
    (hmem : (key, value) ∈ pairs) : get? key (ofPairs pairs) = some value := by
  obtain ⟨first, second, rfl⟩ := List.append_of_mem hmem
  have hlast : key ∉ second.map Prod.fst := by
    rw [List.map_append, List.map_cons] at hnodup
    exact (List.nodup_cons.mp (List.nodup_append.mp hnodup).2.1).1
  rw [ofPairs, get?_insertAll_append_cons hlast]

theorem get?_eq_none {key : String} {entries : Entries α}
    (h : key ∉ entries.map Prod.fst) : get? key entries = none := by
  induction entries with
  | nil => rfl
  | cons entry rest ih =>
      rw [List.map_cons, List.mem_cons, not_or] at h
      rw [get?_cons, if_neg h.1, ih h.2]

theorem mem_of_get? {key : String} {value : α} {entries : Entries α}
    (h : get? key entries = some value) : (key, value) ∈ entries := by
  induction entries with
  | nil => cases h
  | cons entry rest ih =>
      rw [get?_cons] at h
      split at h
      · next hkey =>
          cases h
          rw [hkey]
          exact List.mem_cons_self
      · exact List.mem_cons_of_mem _ (ih h)

theorem isSome_get?_iff {key : String} {entries : Entries α} :
    (get? key entries).isSome = true ↔ key ∈ entries.map Prod.fst := by
  induction entries with
  | nil => simp
  | cons entry rest ih =>
      rw [get?_cons, List.map_cons, List.mem_cons]
      split
      · next hkey => simp [hkey]
      · next hkey => simp [hkey, ih]

theorem get?_append (key : String) (first second : Entries α) :
    get? key (first ++ second) = (get? key first).or (get? key second) := by
  induction first with
  | nil => rfl
  | cons entry rest ih =>
      rw [List.cons_append, get?_cons, get?_cons]
      split
      · rfl
      · exact ih

/-- Where no key repeats, the first pair of a key is also the last. -/
theorem get?_ofPairs {pairs : List (String × α)} (hnodup : (pairs.map Prod.fst).Nodup)
    (key : String) : get? key (ofPairs pairs) = get? key pairs := by
  cases hfound : get? key pairs with
  | some value => exact get?_ofPairs_of_mem hnodup (mem_of_get? hfound)
  | none =>
      refine get?_insertAll_of_not_mem (fun hmem => ?_) []
      obtain ⟨⟨_, value⟩, hpair, rfl⟩ := List.mem_map.mp hmem
      obtain ⟨first, second, rfl⟩ := List.append_of_mem hpair
      rw [get?_append, get?_cons, if_pos rfl] at hfound
      cases hfirst : get? _ first <;> rw [hfirst] at hfound <;> cases hfound

/-- Where no key repeats, what is found is what one of the pairs has. -/
theorem get?_ofPairs_eq_some {pairs : List (String × α)} (hnodup : (pairs.map Prod.fst).Nodup)
    {key : String} {value : α} : get? key (ofPairs pairs) = some value ↔ (key, value) ∈ pairs := by
  constructor
  · intro h
    rw [get?_ofPairs hnodup] at h
    exact mem_of_get? h
  · exact get?_ofPairs_of_mem hnodup

theorem mem_insertAll {entry : String × α} {entries : Entries α} {pairs : List (String × α)}
    (h : entry ∈ entries.insertAll pairs) : entry ∈ entries ∨ entry ∈ pairs := by
  induction pairs generalizing entries with
  | nil => exact Or.inl h
  | cons pair rest ih =>
      rcases ih h with hold | hrest
      · rcases mem_insert hold with rfl | hold
        · exact Or.inr List.mem_cons_self
        · exact Or.inl hold
      · exact Or.inr (List.mem_cons_of_mem _ hrest)

theorem mem_ofPairs {entry : String × α} {pairs : List (String × α)}
    (h : entry ∈ ofPairs pairs) : entry ∈ pairs := (mem_insertAll h).resolve_left (by simp)

/-! ## How many entries there are -/

/-- A new key makes room for itself; the proof needs no order among the keys. -/
theorem length_insert_of_not_mem {key : String} {value : α} {entries : Entries α}
    (h : key ∉ entries.map Prod.fst) :
    (entries.insert key value).length = entries.length + 1 := by
  induction entries with
  | nil => rfl
  | cons entry rest ih =>
      obtain ⟨k, v⟩ := entry
      rw [List.map_cons, List.mem_cons, not_or] at h
      rw [Entries.insert, if_neg h.1]
      split
      · rfl
      · rw [List.length_cons, List.length_cons, ih h.2]

theorem mem_keys_insert {key other : String} {value : α} {entries : Entries α}
    (h : other ∈ (entries.insert key value).map Prod.fst) :
    other = key ∨ other ∈ entries.map Prod.fst := by
  obtain ⟨entry, hentry, rfl⟩ := List.mem_map.mp h
  rcases mem_insert hentry with rfl | hold
  · exact Or.inl rfl
  · exact Or.inr (List.mem_map.mpr ⟨entry, hold, rfl⟩)

theorem length_insertAll {pairs : List (String × α)}
    (hnodup : (pairs.map Prod.fst).Nodup) (entries : Entries α)
    (hnew : ∀ key ∈ pairs.map Prod.fst, key ∉ entries.map Prod.fst) :
    (entries.insertAll pairs).length = entries.length + pairs.length := by
  induction pairs generalizing entries with
  | nil => rfl
  | cons pair rest ih =>
      rw [List.map_cons, List.nodup_cons] at hnodup
      have hpair : pair.1 ∉ entries.map Prod.fst := hnew _ (by simp)
      have hrest : ∀ key ∈ rest.map Prod.fst,
          key ∉ (entries.insert pair.1 pair.2).map Prod.fst := by
        intro key hkey hmem
        rcases mem_keys_insert hmem with rfl | hold
        · exact hnodup.1 hkey
        · exact hnew key (List.mem_cons_of_mem _ hkey) hold
      rw [insertAll_cons, ih hnodup.2 _ hrest, length_insert_of_not_mem hpair,
        List.length_cons]
      omega

theorem length_ofPairs {pairs : List (String × α)}
    (hnodup : (pairs.map Prod.fst).Nodup) :
    (ofPairs pairs).length = pairs.length := by
  have h := length_insertAll hnodup ([] : Entries α) (by simp)
  rwa [List.length_nil, Nat.zero_add] at h

/-! ## Entries of a list of names -/

/-- An entry for each name that has a value. -/
def pick (f : String → Option α) (names : List String) : Entries α :=
  names.filterMap fun name => (f name).map fun value => (name, value)

theorem pick_cons (f : String → Option α) (name : String) (names : List String) :
    pick f (name :: names) =
      match f name with
      | none => pick f names
      | some value => (name, value) :: pick f names := by
  rw [pick, List.filterMap_cons]
  cases f name <;> rfl

theorem keys_pick_sublist (f : String → Option α) (names : List String) :
    ((pick f names).map Prod.fst).Sublist names := by
  induction names with
  | nil => exact .slnil
  | cons name rest ih =>
      rw [pick_cons]
      cases f name with
      | none => exact ih.cons name
      | some value => exact ih.cons_cons name

theorem get?_pick (f : String → Option α) (names : List String) (key : String) :
    get? key (pick f names) = if key ∈ names then f key else none := by
  induction names with
  | nil => rfl
  | cons name rest ih =>
      rw [pick_cons]
      by_cases hkey : key = name
      · subst hkey
        rw [if_pos List.mem_cons_self]
        cases hvalue : f key with
        | none =>
            show get? key (pick f rest) = none
            rw [ih, hvalue, ite_self]
        | some value => exact if_pos rfl
      · have hmem : key ∈ name :: rest ↔ key ∈ rest := by simp [hkey]
        rw [if_congr hmem rfl rfl, ← ih]
        cases f name with
        | none => rfl
        | some value => exact if_neg hkey

/-! ## Entries in order -/

theorem Ascending.keys_nodup {entries : Entries α} (h : entries.Ascending) :
    (entries.map Prod.fst).Nodup := by
  refine List.Pairwise.map Prod.fst (fun a b hlt heq => ?_) h
  rw [heq] at hlt
  exact Std.lt_irrefl hlt

theorem Ascending.get?_of_mem {entries : Entries α} (h : entries.Ascending)
    {entry : String × α} (hmem : entry ∈ entries) :
    get? entry.1 entries = some entry.2 := by
  induction entries with
  | nil => cases hmem
  | cons first rest ih =>
      obtain ⟨hfirst, hrest⟩ := List.pairwise_cons.mp h
      obtain ⟨k, v⟩ := first
      rw [get?_cons]
      rcases List.mem_cons.mp hmem with rfl | hbehind
      · rw [if_pos rfl]
      · rw [if_neg ?_, ih hrest hbehind]
        rintro rfl
        exact Std.lt_irrefl (hfirst entry hbehind)

theorem get?_filter {entries : Entries α} (h : (entries.map Prod.fst).Nodup)
    (p : String × α → Bool) (key : String) :
    get? key (entries.filter p) = (get? key entries).filter fun value => p (key, value) := by
  induction entries with
  | nil => rfl
  | cons entry rest ih =>
      obtain ⟨k, v⟩ := entry
      rw [List.map_cons, List.nodup_cons] at h
      rw [List.filter_cons, get?_cons]
      split
      · rw [get?_cons]
        split
        · next hkeep hkey => rw [hkey, Option.filter_some, if_pos hkeep]
        · exact ih h.2
      · next hdrop =>
          rw [ih h.2]
          split
          · next hkey =>
              rw [hkey, get?_eq_none h.1, Option.filter_some, if_neg hdrop]
              rfl
          · rfl

theorem get?_of_forall_lt {key : String} {entries : Entries α}
    (h : ∀ entry ∈ entries, key < entry.1) : get? key entries = none := by
  refine get?_eq_none fun hmem => ?_
  obtain ⟨entry, hentry, rfl⟩ := List.mem_map.mp hmem
  exact absurd (h entry hentry) Std.lt_irrefl

/-- Entries in order are equal when they agree under every key. -/
theorem Ascending.ext_get? {as bs : Entries α} (ha : as.Ascending) (hb : bs.Ascending)
    (h : ∀ key, get? key as = get? key bs) : as = bs := by
  induction as generalizing bs with
  | nil =>
      cases bs with
      | nil => rfl
      | cons b bs =>
          have hfound := h b.1
          rw [hb.get?_of_mem List.mem_cons_self] at hfound
          cases hfound
  | cons a as ih =>
      cases bs with
      | nil =>
          have hfound := h a.1
          rw [ha.get?_of_mem List.mem_cons_self] at hfound
          cases hfound
      | cons b bs =>
          obtain ⟨hfirst, hrest⟩ := List.pairwise_cons.mp ha
          obtain ⟨hfirst', hrest'⟩ := List.pairwise_cons.mp hb
          have hmem : a ∈ b :: bs := mem_of_get? (h a.1 ▸ ha.get?_of_mem List.mem_cons_self)
          have hmem' : b ∈ a :: as := mem_of_get? (h b.1 ▸ hb.get?_of_mem List.mem_cons_self)
          -- Were the two first entries different, each would come after the other.
          have heq : a = b := by
            rcases List.mem_cons.mp hmem with heq | hbehind
            · exact heq
            · rcases List.mem_cons.mp hmem' with heq | hbehind'
              · exact heq.symm
              · exact absurd (String.lt_trans (hfirst' a hbehind) (hfirst b hbehind'))
                  Std.lt_irrefl
          subst heq
          refine congrArg (a :: ·) (ih hrest hrest' fun key => ?_)
          have hkey := h key
          rw [get?_cons, get?_cons] at hkey
          split at hkey
          · next hsame =>
              rw [hsame, get?_of_forall_lt hfirst, get?_of_forall_lt hfirst']
          · exact hkey

theorem insert_of_forall_lt {key : String} {value : α} {entries : Entries α}
    (h : ∀ entry ∈ entries, entry.1 < key) :
    entries.insert key value = entries ++ [(key, value)] := by
  induction entries with
  | nil => rfl
  | cons entry rest ih =>
      obtain ⟨k, v⟩ := entry
      have hlt : k < key := h _ List.mem_cons_self
      rw [Entries.insert, if_neg, if_neg, ih fun entry hentry => h entry (.tail _ hentry)]
      · rfl
      · exact fun hgt => Std.lt_irrefl (String.lt_trans hlt hgt)
      · rintro rfl
        exact Std.lt_irrefl hlt

/-- Pairs that ascend are put behind each other. -/
theorem insertAll_of_ascending {entries pairs : Entries α}
    (h : Ascending (entries ++ pairs)) : entries.insertAll pairs = entries ++ pairs := by
  induction pairs generalizing entries with
  | nil => rw [List.append_nil]; rfl
  | cons pair rest ih =>
      have hbelow : ∀ entry ∈ entries, entry.1 < pair.1 := fun entry hentry =>
        (List.pairwise_append.mp h).2.2 entry hentry pair List.mem_cons_self
      rw [List.append_cons] at h
      rw [insertAll_cons, insert_of_forall_lt hbelow, ih h, ← List.append_cons]

theorem ofPairs_of_ascending {entries : Entries α} (h : Ascending entries) :
    ofPairs entries = entries := by
  have hall : Ascending ([] ++ entries) := h
  exact insertAll_of_ascending hall

/-- The order of pairs makes no difference where no key repeats. -/
theorem ofPairs_perm {pairs pairs' : List (String × α)} (h : pairs.Perm pairs')
    (hnodup : (pairs.map Prod.fst).Nodup) : ofPairs pairs = ofPairs pairs' := by
  have hnodup' : (pairs'.map Prod.fst).Nodup := (h.map Prod.fst).nodup_iff.mp hnodup
  refine (ascending_ofPairs pairs).ext_get? (ascending_ofPairs pairs') fun key => ?_
  refine Option.ext fun value => ?_
  rw [get?_ofPairs_eq_some hnodup, get?_ofPairs_eq_some hnodup', h.mem_iff]

/-- What is found after pairs are inserted is found among the pairs, or was there before. -/
theorem get?_insertAll (key : String) (entries : Entries α) (pairs : List (String × α)) :
    get? key (entries.insertAll pairs) = (get? key (ofPairs pairs)).or (get? key entries) := by
  induction pairs generalizing entries with
  | nil => rfl
  | cons pair rest ih =>
      have hfirst : get? key (ofPairs (pair :: rest)) =
          (get? key (ofPairs rest)).or (if key = pair.1 then some pair.2 else none) := by
        rw [ofPairs, insertAll_cons, ih, get?_insert, get?_nil]
      rw [insertAll_cons, ih, hfirst, get?_insert, Option.or_assoc]
      split <;> rfl

/-- A pair whose key comes once may as well be inserted last. -/
theorem ofPairs_cons_of_get? {pair : String × α} {rest : List (String × α)}
    (h : get? pair.1 (ofPairs rest) = none) :
    ofPairs (pair :: rest) = (ofPairs rest).insert pair.1 pair.2 := by
  refine (ascending_ofPairs _).ext_get? ((ascending_ofPairs rest).insert _ _) fun key => ?_
  rw [ofPairs, insertAll_cons, get?_insertAll, get?_insert, get?_insert, get?_nil]
  split
  · next hkey => rw [hkey, h, Option.none_or]
  · rw [Option.or_none]

/-! ## Entries that agree one by one -/

section

variable {R : α → β → Prop} {as : Entries α} {bs : Entries β}

theorem keys_eq_of_forall₂ (h : List.Forall₂ (fun a b => a.1 = b.1 ∧ R a.2 b.2) as bs) :
    as.map Prod.fst = bs.map Prod.fst := by
  induction h with
  | nil => rfl
  | cons hfirst _ ih => rw [List.map_cons, List.map_cons, hfirst.1, ih]

theorem get?_forall₂ (h : List.Forall₂ (fun a b => a.1 = b.1 ∧ R a.2 b.2) as bs)
    {key : String} {a : α} {b : β} (ha : get? key as = some a) (hb : get? key bs = some b) :
    R a b := by
  induction h with
  | nil => cases ha
  | @cons first second as bs hfirst _ ih =>
      obtain ⟨k, v⟩ := first
      obtain ⟨k', v'⟩ := second
      obtain ⟨rfl, hR⟩ := hfirst
      rw [get?_cons] at ha hb
      split at ha
      · next hkey =>
          rw [if_pos hkey] at hb
          cases ha
          cases hb
          exact hR
      · next hkey =>
          rw [if_neg hkey] at hb
          exact ih ha hb

end

end Rollup.Entries
