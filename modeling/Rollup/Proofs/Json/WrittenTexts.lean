import Rollup.Json.Writer
import Rollup.Proofs.Json.TextMap

/-!
# What the writer makes of texts

The writer escapes the quote, the backslash and the controls, and leaves every
other character as it is. Each of its forms is a spelling of the character, so
a written string is a literal of its text, and a written object of texts is an
object of literals. Nothing else about the writer is needed to read it back:
the reader takes every object of the grammar.
-/

namespace Rollup.Json

theorem hexValue?_digitChar {n : Nat} (h : n < 16) : hexValue? (Nat.digitChar n) = some n := by
  have hall : ∀ k : Fin 16, hexValue? (Nat.digitChar k) = some k.val := by decide
  exact hall ⟨n, h⟩

/-- A control has four digits, the first two of them zeros. -/
theorem spelling_of_control {c : Char} (h : c.toNat < 0x20) :
    Spelling ['\\', 'u', '0', '0', Nat.digitChar (c.toNat / 16), Nat.digitChar (c.toNat % 16)]
      c := by
  have hunit : HexUnit ['0', '0', Nat.digitChar (c.toNat / 16), Nat.digitChar (c.toNat % 16)]
      (((0 * 16 + 0) * 16 + c.toNat / 16) * 16 + c.toNat % 16) :=
    .mk rfl rfl (hexValue?_digitChar (by omega)) (hexValue?_digitChar (by omega))
  have hcode : ((0 * 16 + 0) * 16 + c.toNat / 16) * 16 + c.toNat % 16 = c.toNat := by omega
  rw [hcode] at hunit
  have hspelling := Spelling.unit hunit
    (by simp only [isLeading, Bool.and_eq_false_iff, decide_eq_false_iff_not]; omega)
    (by simp only [isTrailing, Bool.and_eq_false_iff, decide_eq_false_iff_not]; omega)
  rwa [Char.ofNat_toNat] at hspelling

theorem spelling_writeChar (c : Char) : Spelling (writeChar c) c := by
  by_cases hletter : c = '"' ∨ c = '\\' ∨ c = '\x08' ∨ c = '\t' ∨ c = '\n' ∨ c = '\x0c' ∨ c = '\r'
  · rcases hletter with rfl | rfl | rfl | rfl | rfl | rfl | rfl <;> exact .letter (by decide)
  · simp only [not_or] at hletter
    obtain ⟨hquote, hslash, hb, ht, hn, hf, hr⟩ := hletter
    rw [writeChar, if_neg hquote, if_neg hslash, if_neg hb, if_neg ht, if_neg hn, if_neg hf,
      if_neg hr]
    split
    · next hcontrol => exact spelling_of_control hcontrol
    · next hcontrol => exact .plain hquote hslash (by omega)

theorem content_flatMap_writeChar (cs : List Char) : Content (cs.flatMap writeChar) cs := by
  induction cs with
  | nil => exact .nil
  | cons c cs ih =>
      rw [List.flatMap_cons]
      exact .cons (spelling_writeChar c) ih

theorem literal_writeString (s : String) : Literal (writeString s) s :=
  ⟨_, content_flatMap_writeChar s.toList, rfl⟩

theorem Spaced.of_token {token : List Char → String → Prop} {word : List Char} {text : String}
    (h : token word text) : Spaced token word text :=
  ⟨[], word, [], .nil, .nil, h, by simp⟩

/-- Pairs of texts as the members of an object. -/
def textMembers (pairs : List (String × String)) : List (String × Json) :=
  pairs.map fun pair => (pair.1, .string pair.2)

theorem membersText_writeMembers (pair : String × String) (rest : List (String × String)) :
    MembersText Literal (writeMembers (textMembers (pair :: rest)) ++ ['\x7d'])
      (pair :: rest) := by
  induction rest generalizing pair with
  | nil =>
      have hlast := MembersText.last (Spaced.of_token (literal_writeString pair.1))
        (Spaced.of_token (literal_writeString pair.2))
      simpa [textMembers, writeMembers, write] using hlast
  | cons next rest ih =>
      have hmore := MembersText.more (Spaced.of_token (literal_writeString pair.1))
        (Spaced.of_token (literal_writeString pair.2)) (ih next)
      simpa [textMembers, writeMembers, write] using hmore

/-- A written object of texts is an object of literals. -/
theorem objectText_write (pairs : List (String × String)) :
    ObjectText Literal (write (.object (textMembers pairs))) pairs := by
  rw [write]
  cases pairs with
  | nil =>
      have hnone : AllBlank (writeMembers (textMembers [])) := by
        simp [AllBlank, textMembers, writeMembers]
      exact .empty hnone
  | cons pair rest => exact .members (membersText_writeMembers pair rest)

end Rollup.Json
