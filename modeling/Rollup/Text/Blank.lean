import Rollup.Text.CharTable

/-!
# Blank characters and trimming

Blank means the Unicode property White_Space: 25 characters in ten ranges, of
which `Char.isWhitespace` knows only some of the ASCII ones. Every
trim in this library, of names, timestamps, intervals and breakdowns, is the
trim of this file.
-/

namespace Rollup.Text

/-- The Unicode property White_Space. -/
def blankTable : CharTable := [
  (0x9, 0xD), (0x20, 0x20), (0x85, 0x85), (0xA0, 0xA0), (0x1680, 0x1680), (0x2000, 0x200A),
  (0x2028, 0x2029), (0x202F, 0x202F), (0x205F, 0x205F), (0x3000, 0x3000)]

/-- Whether a character is white space. -/
def isBlank (c : Char) : Bool := blankTable.contains c

/-- The text without the blanks it starts with. -/
def trimStart (cs : List Char) : List Char := cs.dropWhile isBlank

/-- The text without the blanks it ends with. -/
def trimEnd (cs : List Char) : List Char := (cs.reverse.dropWhile isBlank).reverse

/-- The text without blanks at either end. -/
def trim (cs : List Char) : List Char := trimEnd (trimStart cs)

/-- `trim`, on strings. -/
def trimString (s : String) : String := String.ofList (trim s.toList)

/-- Whether every character is blank; the empty text counts. -/
def allBlank (cs : List Char) : Bool := cs.all isBlank

/-- Blanks below U+0080 are the space and the five format controls from tab to carriage return. -/
theorem isBlank_ascii_iff (c : Char) (h : c.toNat < 0x80) :
    isBlank c = true ↔ c.toNat = 0x20 ∨ (0x9 ≤ c.toNat ∧ c.toNat ≤ 0xD) := by
  unfold isBlank CharTable.contains blankTable
  generalize c.toNat = n at h ⊢
  by_cases h1 : n < 0x9
  · simp [CharTable.containsCode, h1]; omega
  by_cases h2 : n ≤ 0xD
  · simp [CharTable.containsCode, h1, h2]; omega
  by_cases h3 : n < 0x20
  · simp [CharTable.containsCode, h1, h2, h3]; omega
  by_cases h4 : n ≤ 0x20
  · simp [CharTable.containsCode, h1, h2, h3, h4]; omega
  have h5 : n < 0x85 := by omega
  simp [CharTable.containsCode, h1, h2, h3, h4, h5]; omega

end Rollup.Text
