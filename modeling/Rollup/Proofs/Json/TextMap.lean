import Mathlib.Data.List.TakeWhile
import Rollup.Proofs.Entries
import Rollup.Proofs.Json.Literal

/-!
# Objects of texts

An object whose members are all texts, as a grammar: members with commas
between them, a key, a colon and a value in each, and blanks around every key
and every value. What a key or a value looks like is left open, for a report
allows more than JSON does.

The reader goes from one member to the next and may be at a comma or at the
closing brace when it has read one, so its loop is described by what follows a
member. From there a member in front makes it the text of an object.
-/

namespace Rollup.Json

/-! ## The grammar -/

/-- JSON blanks and nothing else. -/
def AllBlank (cs : List Char) : Prop := ∀ c ∈ cs, isBlank c = true

theorem AllBlank.nil : AllBlank [] := nofun

theorem AllBlank.append {w w' : List Char} (hw : AllBlank w) (hw' : AllBlank w') :
    AllBlank (w ++ w') := List.forall_mem_append.mpr ⟨hw, hw'⟩

/-- A token between blanks. -/
def Spaced (token : List Char → String → Prop) (cs : List Char) (text : String) : Prop :=
  ∃ w word w', AllBlank w ∧ AllBlank w' ∧ token word text ∧ cs = w ++ word ++ w'

/-- The members of an object that has some, up to its closing brace. -/
inductive MembersText (token : List Char → String → Prop) :
    List Char → List (String × String) → Prop
  | last {k v : List Char} {key value : String} :
      Spaced token k key → Spaced token v value →
        MembersText token (k ++ ':' :: (v ++ ['\x7d'])) [(key, value)]
  | more {k v rest : List Char} {key value : String} {pairs : List (String × String)} :
      Spaced token k key → Spaced token v value → MembersText token rest pairs →
        MembersText token (k ++ ':' :: (v ++ ',' :: rest)) ((key, value) :: pairs)

/-- An object, from its opening to its closing brace, and its members in order. -/
inductive ObjectText (token : List Char → String → Prop) :
    List Char → List (String × String) → Prop
  | empty {w : List Char} : AllBlank w → ObjectText token ('\x7b' :: (w ++ ['\x7d'])) []
  | members {cs : List Char} {pairs : List (String × String)} :
      MembersText token cs pairs → ObjectText token ('\x7b' :: cs) pairs

/-- What follows a member. -/
inductive MembersTail (token : List Char → String → Prop) :
    List Char → List (String × String) → Prop
  | close : MembersTail token ['\x7d'] []
  | comma {cs : List Char} {pairs : List (String × String)} :
      MembersText token cs pairs → MembersTail token (',' :: cs) pairs

section

variable {token : List Char → String → Prop} {k v tail : List Char} {key value : String}
  {pairs : List (String × String)}

theorem MembersTail.cons (h : MembersTail token tail pairs) (hkey : Spaced token k key)
    (hvalue : Spaced token v value) :
    MembersText token (k ++ ':' :: (v ++ tail)) ((key, value) :: pairs) := by
  cases h with
  | close => exact .last hkey hvalue
  | comma hmembers => exact .more hkey hvalue hmembers

/-- Every member has a key and a value and something behind them. -/
theorem MembersText.exists_cons {members : List Char} (h : MembersText token members pairs) :
    ∃ k v tail key value rest, Spaced token k key ∧ Spaced token v value ∧
      MembersTail token tail rest ∧ members = k ++ ':' :: (v ++ tail) ∧
      pairs = (key, value) :: rest := by
  cases h with
  | last hkey hvalue => exact ⟨_, _, _, _, _, _, hkey, hvalue, .close, rfl, rfl⟩
  | more hkey hvalue hmembers => exact ⟨_, _, _, _, _, _, hkey, hvalue, .comma hmembers, rfl, rfl⟩

theorem Spaced.append_left {cs : List Char} {text : String} (h : Spaced token cs text)
    {w : List Char} (hw : AllBlank w) : Spaced token (w ++ cs) text := by
  obtain ⟨w₁, word, w₂, hw₁, hw₂, hword, rfl⟩ := h
  refine ⟨w ++ w₁, word, w₂, ?_, hw₂, hword, by simp⟩
  intro c hc
  rcases List.mem_append.mp hc with hc | hc
  · exact hw c hc
  · exact hw₁ c hc

/-- Blanks in front belong to the first key. -/
theorem MembersText.append_left {members : List Char} (h : MembersText token members pairs)
    {w : List Char} (hw : AllBlank w) : MembersText token (w ++ members) pairs := by
  obtain ⟨k, v, tail, key, value, rest, hkey, hvalue, htail, rfl, rfl⟩ := h.exists_cons
  rw [← List.append_assoc]
  exact htail.cons (hkey.append_left hw) hvalue

theorem Spaced.mono {token' : List Char → String → Prop} {cs : List Char} {text : String}
    (htoken : ∀ word text, token word text → token' word text) (h : Spaced token cs text) :
    Spaced token' cs text := by
  obtain ⟨w, word, w', hw, hw', hword, hcs⟩ := h
  exact ⟨w, word, w', hw, hw', htoken word text hword, hcs⟩

/-- With more tokens there are more objects. -/
theorem MembersText.mono {token' : List Char → String → Prop} {members : List Char}
    (htoken : ∀ word text, token word text → token' word text)
    (h : MembersText token members pairs) : MembersText token' members pairs := by
  induction h with
  | last hkey hvalue => exact .last (hkey.mono htoken) (hvalue.mono htoken)
  | more hkey hvalue _ ih => exact .more (hkey.mono htoken) (hvalue.mono htoken) ih

theorem ObjectText.mono {token' : List Char → String → Prop} {object : List Char}
    (htoken : ∀ word text, token word text → token' word text)
    (h : ObjectText token object pairs) : ObjectText token' object pairs := by
  cases h with
  | empty hw => exact .empty hw
  | members hmembers => exact .members (hmembers.mono htoken)

end

/-! ## The reader -/

theorem skipBlanks_spec (cs : List Char) : ∃ w, AllBlank w ∧ cs = w ++ skipBlanks cs :=
  ⟨cs.takeWhile isBlank, List.all_eq_true.mp List.all_takeWhile,
    List.takeWhile_append_dropWhile.symm⟩

/-- The loop reads the members of an object of texts. -/
def readTextMember (dict : Dict String) (key : String) : Reader (Dict String) := fun cs => do
  let (value, rest) ← readText (← readColon cs)
  return (dict.insert key value, rest)

theorem readText_spec {cs rest : List Char} {text : String} (h : readText cs = .ok (text, rest)) :
    ∃ w word, AllBlank w ∧ Literal word text ∧ cs = w ++ word ++ rest := by
  obtain ⟨w, hw, hcs⟩ := skipBlanks_spec cs
  rw [readText] at h
  split at h
  · next cs' hquote =>
      obtain ⟨body, hbody, rfl⟩ := readString_eq_ok.mp h
      refine ⟨w, _, hw, ⟨body, hbody, rfl⟩, ?_⟩
      rw [hcs, hquote]
      simp
  · cases h

theorem readColon_spec {cs rest : List Char} (h : readColon cs = .ok rest) :
    ∃ w, AllBlank w ∧ cs = w ++ ':' :: rest := by
  obtain ⟨w, hw, hcs⟩ := skipBlanks_spec cs
  rw [readColon] at h
  split at h
  · cases h
  · next c rest' hskip =>
      split at h
      · next hc =>
          cases h
          exact ⟨w, hw, by rw [hcs, hskip, hc]⟩
      · cases h

theorem readTextMember_spec {dict dict' : Dict String} {key : String} {cs rest : List Char}
    (h : readTextMember dict key cs = .ok (dict', rest)) :
    ∃ w w' word value, AllBlank w ∧ AllBlank w' ∧ Literal word value ∧
      cs = w ++ ':' :: (w' ++ word ++ rest) ∧ dict' = dict.insert key value := by
  obtain ⟨behind, hcolon, hstep⟩ := Except.bind_eq_ok.mp h
  obtain ⟨⟨value, rest'⟩, hvalue, hstep⟩ := Except.bind_eq_ok.mp hstep
  cases hstep
  obtain ⟨w, hw, rfl⟩ := readColon_spec hcolon
  obtain ⟨w', word, hw', hword, rfl⟩ := readText_spec hvalue
  exact ⟨w, w', word, value, hw, hw', hword, rfl, rfl⟩

/-- Inserts pairs one after the other. -/
def insertPairs (dict : Dict String) (pairs : List (String × String)) : Dict String :=
  ⟨dict.entries.insertAll pairs, dict.ascending.insertAll pairs⟩

theorem insertPairs_empty (pairs : List (String × String)) :
    insertPairs ∅ pairs = Dict.ofPairs pairs := rfl

/-- A member that starts here, and what the loop reads behind it. -/
theorem readMember_spec {fuel : Nat} {dict dict' : Dict String} {cs after : List Char}
    (ih : ∀ {dict : Dict String} {cs : List Char},
      readMembers readTextMember fuel false dict cs = .ok (dict', after) →
        ∃ w tail pairs, AllBlank w ∧ MembersTail Literal tail pairs ∧
          cs = w ++ tail ++ after ∧ dict' = insertPairs dict pairs)
    (h : (do
      let (key, rest) ← readString cs
      let (dict, rest) ← readTextMember dict key rest
      readMembers readTextMember fuel false dict rest) = .ok (dict', after)) :
    ∃ members pairs, MembersText Literal members pairs ∧
      '"' :: cs = members ++ after ∧ dict' = insertPairs dict pairs := by
  obtain ⟨⟨key, behind⟩, hkey, hstep⟩ := Except.bind_eq_ok.mp h
  obtain ⟨⟨dict₁, rest⟩, hmember, hloop⟩ := Except.bind_eq_ok.mp hstep
  obtain ⟨body, hbody, rfl⟩ := readString_eq_ok.mp hkey
  obtain ⟨w, w', word, value, hw, hw', hword, rfl, rfl⟩ := readTextMember_spec hmember
  obtain ⟨w'', tail, pairs, hw'', htail, rfl, rfl⟩ := ih hloop
  have hspacedKey : Spaced Literal ('"' :: (body ++ ['"']) ++ w) key :=
    ⟨[], _, w, .nil, hw, ⟨body, hbody, rfl⟩, rfl⟩
  have hspacedValue : Spaced Literal (w' ++ word ++ w'') value :=
    ⟨w', word, w'', hw', hw'', hword, rfl⟩
  exact ⟨_, _, htail.cons hspacedKey hspacedValue, by simp, rfl⟩

theorem readMembers_spec {fuel : Nat} {dict dict' : Dict String} {cs after : List Char}
    (h : readMembers readTextMember fuel false dict cs = .ok (dict', after)) :
    ∃ w tail pairs, AllBlank w ∧ MembersTail Literal tail pairs ∧
      cs = w ++ tail ++ after ∧ dict' = insertPairs dict pairs := by
  induction fuel generalizing dict cs with
  | zero => cases h
  | succ fuel ih =>
      obtain ⟨w, hw, hcs⟩ := skipBlanks_spec cs
      rw [readMembers] at h
      split at h
      · cases h
      · next c rest hskip =>
          rw [hskip] at hcs
          split at h
          · next hbrace =>
              cases h
              exact ⟨w, _, [], hw, .close, by simp [hcs, hbrace], rfl⟩
          · rw [if_neg (by decide)] at h
            split at h
            · next hcomma =>
                obtain ⟨w', hw', hrest⟩ := skipBlanks_spec rest
                split at h
                · cases h
                · next d rest' hskip' =>
                    rw [hskip'] at hrest
                    split at h
                    · next hquote =>
                        obtain ⟨members, pairs, hmembers, hread, rfl⟩ := readMember_spec ih h
                        refine ⟨w, _, pairs, hw, .comma (hmembers.append_left hw'), ?_, rfl⟩
                        rw [hcs, hcomma, hrest, hquote, hread]
                        simp
                    · split at h <;> cases h
            · cases h

theorem readTextObject_spec {dict : Dict String} {cs after : List Char}
    (h : readObject readTextMember ∅ cs = .ok (dict, after)) :
    ∃ object pairs, ObjectText Literal object pairs ∧
      '\x7b' :: cs = object ++ after ∧ dict = Dict.ofPairs pairs := by
  obtain ⟨w, hw, hcs⟩ := skipBlanks_spec cs
  rw [readObject, readMembers] at h
  split at h
  · cases h
  · next c rest hskip =>
      rw [hskip] at hcs
      split at h
      · next hbrace =>
          cases h
          exact ⟨_, [], .empty hw, by simp [hcs, hbrace], rfl⟩
      · rw [if_pos rfl] at h
        split at h
        · next hquote =>
            obtain ⟨members, pairs, hmembers, hread, rfl⟩ := readMember_spec readMembers_spec h
            refine ⟨_, pairs, .members (hmembers.append_left hw), ?_, insertPairs_empty pairs⟩
            rw [hcs, hquote, hread]
            simp
        · cases h

/-- A text that is read as a map of texts is an object of literals between blanks, and the map is
that of its members. -/
theorem readWhole_readMap_spec {dict : Dict String} {cs : List Char}
    (h : readWhole (readMap readText) cs = .ok dict) :
    ∃ w object w' pairs, AllBlank w ∧ AllBlank w' ∧ ObjectText Literal object pairs ∧
      cs = w ++ object ++ w' ∧ dict = Dict.ofPairs pairs := by
  obtain ⟨w, hw, hcs⟩ := skipBlanks_spec cs
  obtain ⟨⟨dict', after⟩, hmap, hend⟩ := Except.bind_eq_ok.mp h
  rw [readMap] at hmap
  split at hmap
  · next rest hbrace =>
      obtain ⟨object, pairs, hobject, hread, rfl⟩ := readTextObject_spec hmap
      obtain ⟨w', hw', hafter⟩ := skipBlanks_spec after
      simp only [] at hend
      split at hend
      · next hblank =>
          cases hend
          rw [hblank, List.append_nil] at hafter
          refine ⟨w, object, w', pairs, hw, hw', hobject, ?_, rfl⟩
          rw [hcs, hbrace, hread, hafter, List.append_assoc]
      · cases hend
  · cases hmap

/-! ## The reader takes every object -/

theorem skipBlanks_append {w : List Char} (hw : AllBlank w) (cs : List Char) :
    skipBlanks (w ++ cs) = skipBlanks cs := List.dropWhile_append_of_pos hw

theorem skipBlanks_cons {c : Char} (hc : isBlank c = false) (cs : List Char) :
    skipBlanks (c :: cs) = c :: cs := List.dropWhile_cons_of_neg (by simp [hc])

theorem skipBlanks_of_allBlank {w : List Char} (hw : AllBlank w) : skipBlanks w = [] :=
  List.dropWhile_eq_nil_iff.mpr hw

theorem readText_append {w word : List Char} {text : String} (hw : AllBlank w)
    (hword : Literal word text) (rest : List Char) :
    readText (w ++ word ++ rest) = .ok (text, rest) := by
  obtain ⟨body, hbody, rfl⟩ := hword
  rw [readText, List.append_assoc, skipBlanks_append hw, List.cons_append,
    skipBlanks_cons (by decide)]
  exact readString_eq_ok.mpr ⟨body, hbody, by simp⟩

theorem readColon_append {w : List Char} (hw : AllBlank w) (rest : List Char) :
    readColon (w ++ ':' :: rest) = .ok rest := by
  rw [readColon, skipBlanks_append hw, skipBlanks_cons (by decide)]
  rfl

theorem readTextMember_append {w w' word : List Char} {value : String} (hw : AllBlank w)
    (hw' : AllBlank w') (hword : Literal word value) (dict : Dict String) (key : String)
    (rest : List Char) :
    readTextMember dict key (w ++ ':' :: (w' ++ word ++ rest)) =
      .ok (dict.insert key value, rest) := by
  rw [readTextMember]
  refine Except.bind_eq_ok.mpr ⟨_, readColon_append hw _, ?_⟩
  exact Except.bind_eq_ok.mpr ⟨_, readText_append hw' hword rest, rfl⟩

/-- A member and what the loop makes of the text behind it. The quote that opens the key is read
already. -/
theorem readMember_append (fuel : Nat) (dict : Dict String) (after : List Char)
    {k v tail : List Char} {key value : String} {pairs : List (String × String)}
    (hkey : Spaced Literal k key) (hvalue : Spaced Literal v value)
    (hrest : ∀ w, AllBlank w → (w ++ tail).length < (k ++ ':' :: (v ++ tail)).length →
      readMembers readTextMember fuel false (dict.insert key value) (w ++ tail ++ after) =
        .ok (insertPairs (dict.insert key value) pairs, after)) :
    ∃ cs, skipBlanks (k ++ ':' :: (v ++ tail) ++ after) = '"' :: cs ∧
      (do
        let (key, rest) ← readString cs
        let (dict, rest) ← readTextMember dict key rest
        readMembers readTextMember fuel false dict rest) =
          .ok (insertPairs dict ((key, value) :: pairs), after) := by
  obtain ⟨w₁, _, w₂, hw₁, hw₂, ⟨body, hbody, rfl⟩, rfl⟩ := hkey
  obtain ⟨w₃, word, w₄, hw₃, hw₄, hword, rfl⟩ := hvalue
  refine ⟨body ++ '"' :: (w₂ ++ ':' :: (w₃ ++ word ++ (w₄ ++ tail ++ after))), ?_, ?_⟩
  · simp only [List.append_assoc, List.cons_append, List.nil_append]
    rw [skipBlanks_append hw₁, skipBlanks_cons (by decide)]
  · refine Except.bind_eq_ok.mpr ⟨_, readString_eq_ok.mpr ⟨body, hbody, rfl⟩, ?_⟩
    refine Except.bind_eq_ok.mpr ⟨_, readTextMember_append hw₂ hw₃ hword dict key _, ?_⟩
    exact hrest w₄ hw₄ (by simp; omega)

/-- From behind a member, the loop reads all members that follow. -/
theorem readMembers_append {fuel : Nat} (dict : Dict String) (after : List Char)
    {w tail : List Char} {pairs : List (String × String)} (hw : AllBlank w)
    (htail : MembersTail Literal tail pairs) (hfuel : (w ++ tail).length < fuel) :
    readMembers readTextMember fuel false dict (w ++ tail ++ after) =
      .ok (insertPairs dict pairs, after) := by
  induction fuel generalizing w tail pairs dict with
  | zero => omega
  | succ fuel ih =>
      rw [readMembers, List.append_assoc, skipBlanks_append hw]
      cases htail with
      | close =>
          rw [List.singleton_append, skipBlanks_cons (by decide)]
          rfl
      | comma hmembers =>
          obtain ⟨k, v, tail, key, value, rest, hkey, hvalue, htail, rfl, rfl⟩ :=
            hmembers.exists_cons
          have hrest : ∀ w', AllBlank w' →
              (w' ++ tail).length < (k ++ ':' :: (v ++ tail)).length → _ :=
            fun w' hw' hlength => ih (dict.insert key value) hw' htail (by
              simp only [List.length_append, List.length_cons] at hfuel hlength ⊢
              omega)
          obtain ⟨cs, hskip, hread⟩ := readMember_append fuel dict after hkey hvalue hrest
          rw [List.cons_append, skipBlanks_cons (by decide)]
          simp only [hskip]
          exact hread

theorem readTextObject_append {object : List Char} {pairs : List (String × String)}
    (h : ObjectText Literal object pairs) (after : List Char) :
    ∃ cs, object ++ after = '\x7b' :: cs ∧
      readObject readTextMember ∅ cs = .ok (Dict.ofPairs pairs, after) := by
  cases h with
  | @empty w hw =>
      refine ⟨w ++ '\x7d' :: after, by simp, ?_⟩
      rw [readObject, readMembers, skipBlanks_append hw, skipBlanks_cons (by decide)]
      rfl
  | @members cs _ hmembers =>
      refine ⟨cs ++ after, rfl, ?_⟩
      obtain ⟨k, v, tail, key, value, rest, hkey, hvalue, htail, rfl, rfl⟩ := hmembers.exists_cons
      have hrest : ∀ w, AllBlank w → (w ++ tail).length < (k ++ ':' :: (v ++ tail)).length → _ :=
        fun w hw hlength => readMembers_append (Dict.insert ∅ key value) after hw htail
          (Nat.lt_of_lt_of_le hlength (List.length_append ▸ Nat.le_add_right _ after.length))
      obtain ⟨cs, hskip, hread⟩ := readMember_append _ ∅ after hkey hvalue hrest
      rw [readObject, readMembers, hskip]
      exact hread

/-- An object of literals between blanks is read, as the map of its members. -/
theorem readWhole_readMap_append {w object w' : List Char} {pairs : List (String × String)}
    (hw : AllBlank w) (hw' : AllBlank w') (h : ObjectText Literal object pairs) :
    readWhole (readMap readText) (w ++ object ++ w') = .ok (Dict.ofPairs pairs) := by
  obtain ⟨cs, hobject, hread⟩ := readTextObject_append h w'
  have hmap : readMap readText (w ++ object ++ w') = .ok (Dict.ofPairs pairs, w') := by
    rw [readMap, List.append_assoc, skipBlanks_append hw, hobject, skipBlanks_cons (by decide)]
    exact hread
  refine Except.bind_eq_ok.mpr ⟨_, hmap, ?_⟩
  exact if_pos (skipBlanks_of_allBlank hw')

end Rollup.Json
