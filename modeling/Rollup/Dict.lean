/-!
# Dictionaries in key order

A dictionary from names to values whose entries are always listed in ascending
order of their keys, by code point. Order is part of what is observable here:
event identity hashes properties in key order and JSON objects are written in
key order, so two ways of filling a dictionary that leave the same entries must
leave the same value. Keeping the list sorted makes that an equality of lists.

The operations come first on plain lists of entries, which is the form in which
a JSON object holds its members; `Dict` adds the proof that the keys ascend.
-/

namespace Rollup

/-- Entries of a dictionary, in the order in which they are listed. -/
abbrev Entries (α : Type) := List (String × α)

namespace Entries

variable {α β : Type}

/-- The keys ascend, and so none occurs twice. -/
def Ascending (entries : Entries α) : Prop :=
  entries.Pairwise fun a b => a.1 < b.1

/-- Puts a key in its place; a key that is there gets the new value. -/
def insert (key : String) (value : α) : Entries α → Entries α
  | [] => [(key, value)]
  | (k, v) :: rest =>
      if key = k then (key, value) :: rest
      else if key < k then (key, value) :: (k, v) :: rest
      else (k, v) :: insert key value rest

/-- The value under a key. -/
def get? (key : String) : Entries α → Option α
  | [] => none
  | (k, v) :: rest => if key = k then some v else get? key rest

/-- Inserts pairs one after the other, so that the last of a key wins. -/
def insertAll (entries : Entries α) (pairs : List (String × α)) : Entries α :=
  pairs.foldl (fun acc pair => acc.insert pair.1 pair.2) entries

/-- The entries of a list of pairs, the last of a key winning. -/
def ofPairs (pairs : List (String × α)) : Entries α := insertAll [] pairs

@[simp] theorem get?_nil (key : String) : get? key ([] : Entries α) = none := rfl

theorem get?_cons (key k : String) (v : α) (rest : Entries α) :
    get? key ((k, v) :: rest) = if key = k then some v else get? key rest := rfl

/-- Insertion changes what is found under one key only. -/
theorem get?_insert (key other : String) (value : α) (entries : Entries α) :
    get? other (entries.insert key value) =
      if other = key then some value else get? other entries := by
  induction entries with
  | nil => simp [insert, get?]
  | cons entry rest ih =>
    obtain ⟨k, v⟩ := entry
    by_cases hk : key = k
    · subst hk
      by_cases ho : other = key <;> simp [insert, get?, ho]
    · by_cases hlt : key < k
      · simp [insert, hk, hlt, get?]
      · by_cases ho : other = key
        · subst ho
          simp [insert, hk, hlt, get?, ih]
        · simp [insert, hk, hlt, get?, ho, ih]

/-- An inserted key is the new one or an old one. -/
theorem mem_insert {key : String} {value : α} {entries : Entries α} {entry : String × α}
    (h : entry ∈ entries.insert key value) : entry = (key, value) ∨ entry ∈ entries := by
  induction entries with
  | nil => simpa [insert] using h
  | cons first rest ih =>
    obtain ⟨k, v⟩ := first
    by_cases hk : key = k
    · simp only [insert, hk, if_true, List.mem_cons] at h
      rcases h with h | h
      · exact Or.inl (hk ▸ h)
      · exact Or.inr (List.mem_cons_of_mem _ h)
    · by_cases hlt : key < k
      · simp only [insert, hk, hlt, if_true, if_false] at h
        rcases List.mem_cons.1 h with h | h
        · exact Or.inl h
        · exact Or.inr h
      · simp only [insert, hk, hlt, if_false, List.mem_cons] at h
        rcases h with h | h
        · exact Or.inr (h ▸ List.mem_cons_self)
        · rcases ih h with h | h
          · exact Or.inl h
          · exact Or.inr (List.mem_cons_of_mem _ h)

/-- Insertion keeps the order. -/
theorem Ascending.insert {entries : Entries α} (h : Ascending entries) (key : String)
    (value : α) : Ascending (entries.insert key value) := by
  induction entries with
  | nil => exact List.pairwise_singleton _ _
  | cons first rest ih =>
    obtain ⟨k, v⟩ := first
    have hrest : ∀ entry ∈ rest, k < entry.1 := (List.pairwise_cons.1 h).1
    have htail : Ascending rest := (List.pairwise_cons.1 h).2
    by_cases hk : key = k
    · subst hk
      simp only [Entries.insert, if_true]
      exact List.pairwise_cons.2 ⟨hrest, htail⟩
    · by_cases hlt : key < k
      · simp only [Entries.insert, hk, hlt, if_true, if_false]
        refine List.pairwise_cons.2 ⟨fun entry hentry => ?_, h⟩
        rcases List.mem_cons.1 hentry with rfl | hentry
        · exact hlt
        · exact String.lt_trans hlt (hrest entry hentry)
      · simp only [Entries.insert, hk, hlt, if_false]
        refine List.pairwise_cons.2 ⟨fun entry hentry => ?_, ih htail⟩
        rcases mem_insert hentry with rfl | hentry
        · show k < key
          rcases Std.lt_trichotomy k key with hlt' | heq | hgt
          · exact hlt'
          · exact absurd heq.symm hk
          · exact absurd hgt hlt
        · exact hrest entry hentry

/-- Inserting pairs keeps the order. -/
theorem Ascending.insertAll {entries : Entries α} (h : Ascending entries)
    (pairs : List (String × α)) : Ascending (entries.insertAll pairs) := by
  induction pairs generalizing entries with
  | nil => exact h
  | cons pair rest ih => exact ih (h.insert pair.1 pair.2)

/-- Entries made from pairs are in order. -/
theorem ascending_ofPairs (pairs : List (String × α)) : Ascending (ofPairs pairs) :=
  Ascending.insertAll List.Pairwise.nil pairs

end Entries

/-- A dictionary: entries in ascending key order. -/
structure Dict (α : Type) where
  entries : Entries α
  ascending : entries.Ascending
deriving DecidableEq

namespace Dict

variable {α : Type}

instance : Inhabited (Dict α) := ⟨⟨[], List.Pairwise.nil⟩⟩

instance : EmptyCollection (Dict α) := ⟨⟨[], List.Pairwise.nil⟩⟩

/-- A dictionary is its list of entries. -/
@[ext] theorem ext {d e : Dict α} (h : d.entries = e.entries) : d = e := by
  cases d; cases e; cases h; rfl

/-- Puts a value under a key, in place of the one that is there. -/
def insert (d : Dict α) (key : String) (value : α) : Dict α :=
  ⟨d.entries.insert key value, d.ascending.insert key value⟩

/-- The value under a key. -/
def get? (d : Dict α) (key : String) : Option α := d.entries.get? key

/-- The dictionary of a list of pairs, the last of a key winning. -/
def ofPairs (pairs : List (String × α)) : Dict α :=
  ⟨Entries.ofPairs pairs, Entries.ascending_ofPairs pairs⟩

/-- How many keys there are. -/
def size (d : Dict α) : Nat := d.entries.length

/-- Whether there is no key. -/
def isEmpty (d : Dict α) : Bool := d.entries.isEmpty

/-- The keys, ascending. -/
def keys (d : Dict α) : List String := d.entries.map Prod.fst

theorem get?_insert (d : Dict α) (key other : String) (value : α) :
    (d.insert key value).get? other = if other = key then some value else d.get? other :=
  Entries.get?_insert key other value d.entries

end Dict

end Rollup
