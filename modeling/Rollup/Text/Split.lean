import Rollup.Word

/-!
# Splitting and counting

The small readings that several formats share: a text cut at separators, a
number in decimal digits, the size of a text in bytes.
-/

namespace Rollup.Text

/-- The pieces between separators. There is one piece more than there are separators, so the empty
text has one empty piece. -/
def splitOn (isSeparator : Char → Bool) : List Char → List (List Char)
  | [] => [[]]
  | c :: rest =>
      match splitOn isSeparator rest with
      | [] => [[c]]
      | piece :: pieces =>
          if isSeparator c then [] :: piece :: pieces else (c :: piece) :: pieces

/-- The number that decimal digits spell; the text holds nothing else and is not empty. -/
def digits? (cs : List Char) : Option Nat :=
  if cs ≠ [] ∧ cs.all Char.isDigit then some (Nat.ofDigitChars 10 cs 0) else none

/-- A count of one machine word: decimal digits, after a plus sign if there is one. -/
def count? (cs : List Char) : Option Nat :=
  let n? := match cs with
    | '+' :: rest => digits? rest
    | _ => digits? cs
  n?.filter (· < Word.unsignedBound)

/-- How many bytes characters take in UTF-8. -/
def byteLength : List Char → Nat
  | [] => 0
  | c :: cs => c.utf8Size + byteLength cs

/-- A number in decimal digits, with zeros in front up to a width. -/
def padded (width n : Nat) : List Char :=
  let digits := Nat.toDigits 10 n
  List.replicate (width - digits.length) '0' ++ digits

theorem length_dropWhile_le (p : Char → Bool) (cs : List Char) :
    (cs.dropWhile p).length ≤ cs.length :=
  (List.dropWhile_sublist p).length_le

/-- A text without separators is one piece. -/
theorem splitOn_of_forall_not {isSeparator : Char → Bool} {cs : List Char}
    (h : ∀ c ∈ cs, isSeparator c = false) : splitOn isSeparator cs = [cs] := by
  induction cs with
  | nil => rfl
  | cons c rest ih =>
    rw [splitOn, ih fun d hd => h d (List.mem_cons_of_mem _ hd)]
    simp [h c List.mem_cons_self]

end Rollup.Text
