import Rollup.Json.Reader
import Rollup.Proofs.Except

/-!
# String literals

How JSON spells a text. A character stands for itself, or is one of eight
escapes of one letter, or is written as one code unit of UTF-16 in hexadecimal
digits, or as two where it has a surrogate pair. The grammar says nothing about
readers; the reader takes a text exactly when the grammar does, and then gives
the text that was spelled.

A closing quote is never part of what comes before it: the only spelling that
holds a quote starts with a backslash. So a literal ends in one place only, and
that follows from the reader being a function.
-/

namespace Rollup.Json

/-! ## Spelling -/

/-- The letter of an escape and the character it stands for. -/
def letterEscapes : List (Char × Char) := [
  ('"', '"'), ('\\', '\\'), ('/', '/'), ('b', '\x08'), ('f', '\x0c'), ('n', '\n'), ('r', '\r'),
  ('t', '\t')]

/-- Four hexadecimal digits and their number. -/
inductive HexUnit : List Char → Nat → Prop
  | mk {a b c d : Char} {i j k l : Nat} :
      hexValue? a = some i → hexValue? b = some j → hexValue? c = some k → hexValue? d = some l →
        HexUnit [a, b, c, d] (((i * 16 + j) * 16 + k) * 16 + l)

theorem HexUnit.not_mem {digits : List Char} {n : Nat} (h : HexUnit digits n) {c : Char}
    (hc : hexValue? c = none) : c ∉ digits := by
  obtain ⟨hi, hj, hk, hl⟩ := h
  simp only [List.mem_cons, List.not_mem_nil, or_false, not_or]
  refine ⟨?_, ?_, ?_, ?_⟩ <;> rintro rfl
  · cases hc.symm.trans hi
  · cases hc.symm.trans hj
  · cases hc.symm.trans hk
  · cases hc.symm.trans hl

/-- How a string spells one character. -/
inductive Spelling : List Char → Char → Prop
  | plain {c : Char} : c ≠ '"' → c ≠ '\\' → 0x20 ≤ c.toNat → Spelling [c] c
  | letter {e c : Char} : (e, c) ∈ letterEscapes → Spelling ['\\', e] c
  | unit {digits : List Char} {n : Nat} :
      HexUnit digits n → isLeading n = false → isTrailing n = false →
        Spelling ('\\' :: 'u' :: digits) (Char.ofNat n)
  | pair {high low : List Char} {m n : Nat} :
      HexUnit high m → isLeading m = true → HexUnit low n → isTrailing n = true →
        Spelling ('\\' :: 'u' :: (high ++ '\\' :: 'u' :: low))
          (Char.ofNat (0x10000 + (m - 0xD800) * 0x400 + (n - 0xDC00)))

/-- How a string spells its characters. -/
inductive Content : List Char → List Char → Prop
  | nil : Content [] []
  | cons {x body text : List Char} {c : Char} :
      Spelling x c → Content body text → Content (x ++ body) (c :: text)

/-- A string literal and its text. -/
def Literal (token : List Char) (text : String) : Prop :=
  ∃ body, Content body text.toList ∧ token = '"' :: (body ++ ['"'])

/-! ## The reader takes a literal apart -/

theorem readHex_eq_ok {cs rest : List Char} {n : Nat} :
    readHex cs = .ok (n, rest) ↔ ∃ digits, HexUnit digits n ∧ cs = digits ++ rest := by
  constructor
  · intro h
    rw [readHex.eq_def] at h
    generalize (if 4 ≤ Text.byteLength cs then ReadError.invalidEscape
      else .unfinished .string) = fault at h
    simp only [] at h
    split at h
    · split at h
      · next ha hb hc hd =>
          cases h
          exact ⟨_, .mk ha hb hc hd, rfl⟩
      · cases h
    · cases h
  · rintro ⟨_, ⟨ha, hb, hc, hd⟩, rfl⟩
    simp only [List.cons_append, List.nil_append, readHex, ha, hb, hc, hd]

theorem hexUnit_of_readTrailing {leading : Nat} {cs rest : List Char} {c : Char}
    (h : readTrailing leading cs = .ok (c, rest)) :
    ∃ low n, HexUnit low n ∧ isTrailing n = true ∧ cs = '\\' :: 'u' :: (low ++ rest) ∧
      c = Char.ofNat (0x10000 + (leading - 0xD800) * 0x400 + (n - 0xDC00)) := by
  rw [readTrailing.eq_def] at h
  split at h
  · cases h
  · cases h
  · obtain ⟨⟨n, rest'⟩, hhex, hstep⟩ := Except.bind_eq_ok.mp h
    obtain ⟨low, hlow, rfl⟩ := readHex_eq_ok.mp hhex
    simp only [] at hstep
    split at hstep
    · next htrailing =>
        obtain ⟨hc, hrest⟩ := Prod.mk.inj (Except.ok.inj hstep)
        exact ⟨low, n, hlow, htrailing, by rw [hrest], hc.symm⟩
    · cases hstep
  · cases h

/-- After a backslash, the reader takes the rest of the spelling of one character. -/
theorem spelling_of_readEscape {cs rest : List Char} {c : Char}
    (h : readEscape cs = .ok (c, rest)) : ∃ x, Spelling ('\\' :: x) c ∧ cs = x ++ rest := by
  rw [readEscape.eq_def] at h
  split at h
  case h_10 =>
    obtain ⟨⟨n, rest'⟩, hhex, hstep⟩ := Except.bind_eq_ok.mp h
    obtain ⟨digits, hdigits, rfl⟩ := readHex_eq_ok.mp hhex
    simp only [] at hstep
    split at hstep
    · cases hstep
    · next htrailing =>
        rw [Bool.not_eq_true] at htrailing
        split at hstep
        · next hleading =>
            obtain ⟨low, m, hlow, hm, hrest, hc⟩ := hexUnit_of_readTrailing hstep
            rw [hrest, hc]
            exact ⟨_, .pair hdigits hleading hlow hm, by simp⟩
        · next hleading =>
            rw [Bool.not_eq_true] at hleading
            cases hstep
            exact ⟨_, .unit hdigits hleading htrailing, rfl⟩
  all_goals
    cases h
  all_goals
    exact ⟨[_], .letter (by decide), rfl⟩

theorem content_of_readCharacters {fuel : Nat} {cs text rest : List Char}
    (h : readCharacters fuel cs = .ok (text, rest)) :
    ∃ body, Content body text ∧ cs = body ++ '"' :: rest := by
  induction fuel generalizing cs text with
  | zero => cases h
  | succ fuel ih =>
      cases cs with
      | nil => cases h
      | cons c cs =>
          rw [readCharacters] at h
          split at h
          · next hquote =>
              cases h
              exact ⟨[], .nil, by rw [hquote]; rfl⟩
          · next hquote =>
              split at h
              · next hslash =>
                  obtain ⟨⟨d, rest'⟩, hescape, h⟩ := Except.bind_eq_ok.mp h
                  obtain ⟨⟨ds, rest''⟩, hread, h⟩ := Except.bind_eq_ok.mp h
                  cases h
                  obtain ⟨x, hx, rfl⟩ := spelling_of_readEscape hescape
                  obtain ⟨body, hbody, rfl⟩ := ih hread
                  exact ⟨'\\' :: x ++ body, .cons hx hbody, by simp [hslash]⟩
              · next hslash =>
                  split at h
                  · cases h
                  · next hcontrol =>
                      obtain ⟨⟨ds, rest'⟩, hread, h⟩ := Except.bind_eq_ok.mp h
                      cases h
                      obtain ⟨body, hbody, rfl⟩ := ih hread
                      exact ⟨[c] ++ body, .cons (.plain hquote hslash (by omega)) hbody, rfl⟩

/-! ## The reader takes every literal -/

theorem readTrailing_append {low : List Char} {leading n : Nat} (hlow : HexUnit low n)
    (hn : isTrailing n = true) (rest : List Char) :
    readTrailing leading ('\\' :: 'u' :: (low ++ rest)) =
      .ok (Char.ofNat (0x10000 + (leading - 0xD800) * 0x400 + (n - 0xDC00)), rest) := by
  rw [readTrailing]
  refine Except.bind_eq_ok.mpr ⟨(n, rest), readHex_eq_ok.mpr ⟨low, hlow, rfl⟩, ?_⟩
  simp only [hn]
  rfl

theorem readEscape_append {x : List Char} {c : Char} (h : Spelling ('\\' :: x) c)
    (rest : List Char) : readEscape (x ++ rest) = .ok (c, rest) := by
  generalize hspelled : '\\' :: x = spelled at h
  cases h with
  | plain _ hslash =>
      cases hspelled
      exact absurd rfl hslash
  | letter hmem =>
      cases hspelled
      simp only [letterEscapes, List.mem_cons, Prod.mk.injEq, List.not_mem_nil, or_false] at hmem
      rcases hmem with ⟨rfl, rfl⟩ | ⟨rfl, rfl⟩ | ⟨rfl, rfl⟩ | ⟨rfl, rfl⟩ | ⟨rfl, rfl⟩ | ⟨rfl, rfl⟩ |
        ⟨rfl, rfl⟩ | ⟨rfl, rfl⟩
      all_goals rfl
  | @unit digits n hdigits hleading htrailing =>
      cases hspelled
      rw [List.cons_append, readEscape]
      refine Except.bind_eq_ok.mpr ⟨(n, rest), readHex_eq_ok.mpr ⟨digits, hdigits, rfl⟩, ?_⟩
      simp only [hleading, htrailing]
      rfl
  | @pair high low m n hhigh hm hlow hn =>
      cases hspelled
      rw [List.cons_append, List.append_assoc, readEscape]
      have htrailing : isTrailing m = false := by
        simp only [isLeading, isTrailing, Bool.and_eq_true, decide_eq_true_eq,
          Bool.and_eq_false_iff, decide_eq_false_iff_not] at hm ⊢
        omega
      refine Except.bind_eq_ok.mpr ⟨_, readHex_eq_ok.mpr ⟨high, hhigh, rfl⟩, ?_⟩
      simp only [htrailing, hm]
      exact readTrailing_append hlow hn rest

theorem Spelling.ne_nil {x : List Char} {c : Char} (h : Spelling x c) : x ≠ [] := by
  cases h <;> simp

/-- The first character of a spelling tells a plain character from an escape. -/
theorem Spelling.plain_or_escape {x : List Char} {c : Char} (h : Spelling x c) :
    (x = [c] ∧ c ≠ '"' ∧ c ≠ '\\' ∧ 0x20 ≤ c.toNat) ∨ ∃ y, x = '\\' :: y := by
  cases h with
  | plain hquote hslash hcontrol => exact Or.inl ⟨rfl, hquote, hslash, hcontrol⟩
  | letter _ => exact Or.inr ⟨_, rfl⟩
  | unit _ _ _ => exact Or.inr ⟨_, rfl⟩
  | pair _ _ _ _ => exact Or.inr ⟨_, rfl⟩

theorem readCharacters_append {body text : List Char} (h : Content body text) (rest : List Char) :
    ∀ fuel, body.length < fuel →
      readCharacters fuel (body ++ '"' :: rest) = .ok (text, rest) := by
  induction h with
  | nil =>
      intro fuel hfuel
      obtain ⟨fuel, rfl⟩ := Nat.exists_eq_succ_of_ne_zero (Nat.ne_of_gt hfuel)
      rfl
  | @cons x body text c hx _ ih =>
      intro fuel hfuel
      obtain ⟨fuel, rfl⟩ := Nat.exists_eq_succ_of_ne_zero (Nat.ne_of_gt (Nat.zero_lt_of_lt hfuel))
      have hlength := List.length_pos_iff.mpr hx.ne_nil
      rw [List.length_append] at hfuel
      have hrest := ih fuel (by omega)
      rcases hx.plain_or_escape with ⟨rfl, hquote, hslash, hcontrol⟩ | ⟨y, rfl⟩
      · rw [List.append_assoc, List.singleton_append, readCharacters, if_neg hquote, if_neg hslash,
          if_neg (Nat.not_lt.mpr hcontrol), hrest]
        rfl
      · rw [List.append_assoc, List.cons_append, readCharacters, if_neg (by decide), if_pos rfl,
          readEscape_append hx]
        show (readCharacters fuel (body ++ '"' :: rest) >>= _) = _
        rw [hrest]
        rfl

/-- After an opening quote, the reader takes what spells a text up to its closing quote. -/
theorem readString_eq_ok {cs rest : List Char} {text : String} :
    readString cs = .ok (text, rest) ↔
      ∃ body, Content body text.toList ∧ cs = body ++ '"' :: rest := by
  rw [readString, Except.bind_eq_ok]
  constructor
  · rintro ⟨⟨characters, rest'⟩, hread, h⟩
    cases h
    rw [String.toList_ofList]
    exact content_of_readCharacters hread
  · rintro ⟨body, hbody, rfl⟩
    have hlength : body.length < (body ++ '"' :: rest).length + 1 := by
      rw [List.length_append]
      omega
    refine ⟨(text.toList, rest), readCharacters_append hbody rest _ hlength, ?_⟩
    simp only [String.ofList_toList]
    rfl

/-- What a literal holds ends at one place and spells one text. -/
theorem Content.unique {body body' text text' rest rest' : List Char} (h : Content body text)
    (h' : Content body' text') (heq : body ++ '"' :: rest = body' ++ '"' :: rest') :
    body = body' ∧ text = text' ∧ rest = rest' := by
  have hread := readCharacters_append h rest (body.length + body'.length + 1) (by omega)
  rw [heq, readCharacters_append h' rest' _ (by omega)] at hread
  cases hread
  exact ⟨List.append_cancel_right heq, rfl, rfl⟩

end Rollup.Json
