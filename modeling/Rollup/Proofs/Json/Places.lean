import Rollup.Proofs.Json.ValueText

/-!
# Places that take one kind of value

A text, a count, a list, or one of these or `null`: how JSON writes what such a
place takes, and that its reader takes exactly that. `Reads` says it in one
equivalence. From left to right it tells where the reader stopped, which is
where the value ends; from right to left that it takes every spelling, blanks in
front included. Each combinator keeps it, so what a place takes is put together
as its reader is.
-/

namespace Rollup.Json

/-! ## What is written -/

/-- Digits of a number that one word holds. -/
def CountText (v : List Char) (n : Nat) : Prop :=
  WholeText v ∧ Nat.ofDigitChars 10 v 0 = n ∧ n < Word.unsignedBound

/-- `null`, or what stands for a value. -/
inductive OptionalText {α : Type} (token : List Char → α → Prop) : List Char → Option α → Prop
  | null : OptionalText token ['n', 'u', 'l', 'l'] none
  | some {v : List Char} {a : α} : token v a → OptionalText token v (some a)

/-- What follows an item of an array, and the items there. -/
inductive ItemsTail {α : Type} (token : List Char → α → Prop) : List Char → List α → Prop
  | close {w : List Char} : AllBlank w → ItemsTail token (w ++ [']']) []
  | comma {w w' v tail : List Char} {a : α} {items : List α} :
      AllBlank w → AllBlank w' → token v a → ItemsTail token tail items →
        ItemsTail token (w ++ ',' :: (w' ++ (v ++ tail))) (a :: items)

/-- An array and its items. -/
inductive ListText {α : Type} (token : List Char → α → Prop) : List Char → List α → Prop
  | empty {w : List Char} : AllBlank w → ListText token ('[' :: (w ++ [']'])) []
  | items {w v tail : List Char} {a : α} {items : List α} :
      AllBlank w → token v a → ItemsTail token tail items →
        ListText token ('[' :: (w ++ (v ++ tail))) (a :: items)

/-- A reader takes the tokens and nothing else, up to where they end. -/
structure Reads {α : Type} (read : Reader α) (token : List Char → α → Prop) : Prop where
  valueText {v : List Char} {a : α} : token v a → ValueText v
  eq_ok {cs rest : List Char} {a : α} :
    read cs = .ok (a, rest) ↔ ∃ w v, AllBlank w ∧ token v a ∧ (NumberText v → EndsNumber rest) ∧
      cs = w ++ (v ++ rest)

section

variable {α : Type} {token : List Char → α → Prop}

theorem ItemsTail.endsNumber {tail : List Char} {items : List α} (h : ItemsTail token tail items)
    (rest : List Char) : EndsNumber (tail ++ rest) := by
  cases h with
  | close hw =>
      rw [List.append_assoc]
      exact .append hw (by decide) rest
  | comma hw _ _ _ =>
      rw [List.append_assoc]
      exact .append hw (by decide) _

theorem ItemsTail.tailText (hvalue : ∀ {v a}, token v a → ValueText v) {tail : List Char}
    {items : List α} (h : ItemsTail token tail items) : TailText .list tail := by
  induction h with
  | close hw => exact .close hw
  | comma hw hw' hv _ ih => exact .comma hw (.mk hw' .item .nil (hvalue hv) ih)

theorem ListText.valueText (hvalue : ∀ {v a}, token v a → ValueText v) {v : List Char}
    {items : List α} (h : ListText token v items) : ValueText v := by
  cases h with
  | empty hw => exact .empty .list hw
  | items hw hv htail =>
      exact .filled .list (.mk hw .item .nil (hvalue hv) (htail.tailText hvalue))

theorem OptionalText.valueText (hvalue : ∀ {v a}, token v a → ValueText v) {v : List Char}
    {a : Option α} (h : OptionalText token v a) : ValueText v := by
  cases h with
  | null => exact .scalar .null
  | some hv => exact hvalue hv

end

section

variable {α : Type} {token : List Char → α → Prop}

theorem exists_optionalText {a : Option α} (h : ∀ b, a = some b → ∃ v, token v b) :
    ∃ v, OptionalText token v a := by
  cases a with
  | none => exact ⟨_, .null⟩
  | some b =>
      obtain ⟨v, hv⟩ := h b rfl
      exact ⟨v, .some hv⟩

theorem exists_listText {items : List α} (h : ∀ a ∈ items, ∃ v, token v a) :
    ∃ v, ListText token v items := by
  have htail : ∀ items : List α, (∀ a ∈ items, ∃ v, token v a) →
      ∃ tail, ItemsTail token tail items := by
    intro items h
    induction items with
    | nil => exact ⟨_, .close .nil⟩
    | cons a items ih =>
        obtain ⟨⟨v, hv⟩, h⟩ := List.forall_mem_cons.mp h
        obtain ⟨tail, htail⟩ := ih h
        exact ⟨_, .comma .nil .nil hv htail⟩
  cases items with
  | nil => exact ⟨_, .empty .nil⟩
  | cons a items =>
      obtain ⟨⟨v, hv⟩, h⟩ := List.forall_mem_cons.mp h
      obtain ⟨tail, htail⟩ := htail items h
      exact ⟨_, .items .nil hv htail⟩

end

theorem not_numberText {c : Char} (hc : c ≠ '-' ∧ c.isDigit = false) (more : List Char) :
    ¬ NumberText (c :: more) := by
  intro h
  obtain ⟨c', more', heq, hstart⟩ := h.exists_cons
  cases heq
  rcases hstart with hminus | hdigit
  · exact hc.1 hminus
  · rw [hc.2] at hdigit
    cases hdigit

/-! ## Texts -/

theorem Content.bodyText {body text : List Char} (h : Content body text) : BodyText body := by
  induction h with
  | nil => exact .nil
  | cons hx _ ih =>
      cases hx with
      | plain hquote hslash hcontrol => exact .plain hquote hslash hcontrol ih
      | letter hmem => exact .letter hmem ih
      | unit hdigits _ _ => exact .unit hdigits ih
      | pair hhigh _ hlow _ =>
          rw [List.cons_append, List.cons_append, List.append_assoc]
          exact .unit hhigh (.unit hlow ih)

theorem Literal.valueText {v : List Char} {text : String} (h : Literal v text) : ValueText v := by
  obtain ⟨body, hbody, rfl⟩ := h
  exact .scalar (.string hbody.bodyText)

theorem reads_readText : Reads readText Literal where
  valueText := Literal.valueText
  eq_ok := by
    intro cs rest text
    constructor
    · intro h
      obtain ⟨w, v, hw, hv, rfl⟩ := readText_spec h
      refine ⟨w, v, hw, hv, fun hnumber => ?_, List.append_assoc ..⟩
      obtain ⟨body, -, rfl⟩ := hv
      exact absurd hnumber (not_numberText (by decide) _)
    · rintro ⟨w, v, hw, hv, -, rfl⟩
      rw [← List.append_assoc]
      exact readText_append hw hv rest

/-! ## Counts -/

theorem span_isDigit (cs : List Char) :
    ∃ ds rest, Binary64.spanDigits cs = (ds, rest) ∧ cs = ds ++ rest ∧
      (∀ c ∈ ds, c.isDigit = true) ∧ ∀ c more, rest = c :: more → c.isDigit = false := by
  refine ⟨cs.takeWhile Char.isDigit, cs.dropWhile Char.isDigit, ?_,
    List.takeWhile_append_dropWhile.symm, List.all_eq_true.mp List.all_takeWhile, ?_⟩
  · rw [Binary64.spanDigits, List.span_eq_takeWhile_dropWhile]
  · intro c more heq
    have hhead := List.head?_dropWhile_not Char.isDigit cs
    rw [heq] at hhead
    simpa using hhead

theorem finiteDouble_bind_ne_int (x : Binary64) (cs rest : List Char) (n : Int) :
    (finiteDouble x >>= fun d => Except.ok (d, cs)) ≠ .ok (.int n, rest) := by
  intro h
  obtain ⟨d, hd, hpair⟩ := Except.bind_eq_ok.mp h
  cases hpair
  rw [finiteDouble] at hd
  split at hd
  all_goals cases hd

/-- A number without exponent is an integer when it has no fraction and a word holds it. -/
theorem plainNumber_eq_int {fraction cs rest : List Char} {value : Json} {x : Binary64} {n : Int} :
    (if fraction = [] then
        match value with
        | .double x => finiteDouble x >>= fun d => Except.ok (d, cs)
        | n => .ok (n, cs)
      else finiteDouble x >>= fun d => Except.ok (d, cs)) = .ok (.int n, rest) ↔
      fraction = [] ∧ rest = cs ∧ value = .int n := by
  by_cases hfraction : fraction = []
  · rw [if_pos hfraction]
    constructor
    · intro h
      split at h
      · exact absurd h (finiteDouble_bind_ne_int _ _ _ _)
      · cases h
        exact ⟨hfraction, rfl, rfl⟩
    · rintro ⟨-, rfl, rfl⟩
      rfl
  · rw [if_neg hfraction]
    exact ⟨fun h => absurd h (finiteDouble_bind_ne_int _ _ _ _), fun h => absurd h.1 hfraction⟩

/-- No integer has an exponent. -/
theorem readExponent_eq_int {negative : Bool} {whole fraction cs rest : List Char} {n : Int} :
    readExponent negative whole fraction cs = .ok (.int n, rest) ↔
      (∀ c more, cs = c :: more → c ≠ 'e' ∧ c ≠ 'E') ∧ fraction = [] ∧ rest = cs ∧
        integerValue negative (Nat.ofDigitChars 10 whole 0) = .int n := by
  rw [readExponent.eq_def]
  cases cs with
  | nil =>
      refine plainNumber_eq_int.trans ⟨fun h => ⟨nofun, h⟩, And.right⟩
  | cons mark cs =>
      by_cases hmark : mark = 'e' ∨ mark = 'E'
      · simp only [if_pos hmark]
        refine iff_of_false ?_ fun h => ?_
        · intro h
          split at h
          all_goals
            split at h
            · cases h
            · split at h
              · cases h
              · exact finiteDouble_bind_ne_int _ _ _ _ h
        · obtain ⟨he, hE⟩ := h.1 mark cs rfl
          exact hmark.elim he hE
      · simp only [if_neg hmark]
        refine plainNumber_eq_int.trans ⟨fun h => ⟨?_, h⟩, And.right⟩
        intro c more heq
        cases heq
        exact not_or.mp hmark

/-- An integer is digits without a sign, a point or an exponent behind them. -/
theorem readNumber_eq_int {negative : Bool} {cs rest : List Char} {n : Int} :
    readNumber negative cs = .ok (.int n, rest) ↔
      ∃ whole, WholeText whole ∧ EndsNumber rest ∧ cs = whole ++ rest ∧
        integerValue negative (Nat.ofDigitChars 10 whole 0) = .int n := by
  constructor
  · intro h
    obtain ⟨whole, after, hspan, hcs, hdigits, hafter⟩ := span_isDigit cs
    rw [readNumber, hspan] at h
    simp only [] at h
    split at h
    · cases h
    · next first more =>
        split at h
        · cases h
        · next hzero =>
            have hwhole : WholeText (first :: more) := by
              refine ⟨⟨List.cons_ne_nil _ _, hdigits⟩, fun more' heq => ?_⟩
              cases heq
              by_contra hmore
              exact hzero ⟨rfl, hmore⟩
            split at h
            · split at h
              · cases h
              -- A point gives a fraction, and then there is no integer.
              · next hfraction =>
                  exact absurd (readExponent_eq_int.mp h).2.1 hfraction
            · next hpoint =>
                obtain ⟨hmark, -, rfl, hvalue⟩ := readExponent_eq_int.mp h
                refine ⟨_, hwhole, fun c more heq => ?_, hcs, hvalue⟩
                refine ⟨hafter c more heq, ?_, hmark c more heq⟩
                rintro rfl
                exact hpoint more heq
  · rintro ⟨whole, hwhole, hrest, rfl, hvalue⟩
    rw [readNumber, spanDigits_append hwhole.1.2 fun c more heq => (hrest c more heq).1]
    obtain ⟨c, more, rfl, -⟩ := hwhole.1.exists_cons
    have hzero : ¬ (c = '0' ∧ more ≠ []) := by
      rintro ⟨rfl, hmore⟩
      exact hmore (hwhole.2 more rfl)
    simp only [if_neg hzero]
    split
    · next fraction => exact absurd rfl (hrest '.' fraction rfl).2.1
    · exact readExponent_eq_int.mpr ⟨fun c more heq => (hrest c more heq).2.2, rfl, rfl, hvalue⟩

theorem CountText.numberText {v : List Char} {n : Nat} (h : CountText v n) : NumberText v := by
  have hnumber := NumberText.mk List.mem_cons_self h.1 .absent .absent
  simpa using hnumber

/-- Only zero starts with one. -/
theorem eq_zero_of_toDigits {n : Nat} {more : List Char} (h : Nat.toDigits 10 n = '0' :: more) :
    n = 0 := by
  induction n using Nat.strongRecOn generalizing more with
  | ind n ih =>
      rcases Nat.lt_or_ge n 10 with hn | hn
      · rw [Nat.toDigits_of_lt_base hn] at h
        have hall : ∀ k : Fin 10, Nat.digitChar k = '0' → k.val = 0 := by decide
        exact hall ⟨n, hn⟩ (List.cons.inj h).1
      · rw [Nat.toDigits_of_base_le (by decide) hn] at h
        obtain ⟨c, digits, hdigits⟩ := List.exists_cons_of_ne_nil
          (List.ne_nil_of_length_pos (Nat.length_toDigits_pos (b := 10) (n := n / 10)))
        rw [hdigits, List.cons_append] at h
        obtain ⟨rfl, -⟩ := List.cons.inj h
        have hzero := ih (n / 10) (by omega) hdigits
        omega

theorem countText_toDigits {n : Nat} (h : n < Word.unsignedBound) :
    CountText (Nat.toDigits 10 n) n := by
  refine ⟨⟨⟨List.ne_nil_of_length_pos Nat.length_toDigits_pos, fun c hc =>
    Nat.isDigit_of_mem_toDigits (by decide) (by decide) hc⟩, fun more heq => ?_⟩,
    Nat.ofDigitChars_ten_toDigits, h⟩
  obtain rfl := eq_zero_of_toDigits heq
  exact (List.cons.inj heq).2.symm
theorem integerValue_eq_int {negative : Bool} {m n : Nat} :
    integerValue negative m = .int n ↔ negative = false ∧ m = n ∧ n < Word.unsignedBound := by
  rw [integerValue]
  cases negative with
  | false =>
      simp only [Bool.false_eq_true, if_false]
      split
      · next hword =>
          simp only [Json.int.injEq, Int.natCast_inj, true_and]
          exact ⟨fun h => ⟨h, h ▸ hword⟩, And.left⟩
      · next hword =>
          refine iff_of_false nofun fun h => hword ?_
          omega
  | true =>
      simp only [if_true]
      refine iff_of_false (fun h => ?_) nofun
      split at h
      · cases h
      · next hzero =>
          simp only [Json.int.injEq] at h
          omega

/-- What a count makes of a number. -/
theorem countOf_eq_ok {number : Json} {behind rest : List Char} {n : Nat} :
    (match number with
      | .int n => if 0 ≤ n then pure (n.toNat, behind) else throw (.negativeCount n)
      | .double x => throw (.wrongType (.double x) .count)
      | _ => throw .expectedValue : Except ReadError (Cut Nat)) = .ok (n, rest) ↔
      number = .int n ∧ behind = rest := by
  constructor
  · intro h
    split at h
    · split at h
      · next hn =>
          cases h
          exact ⟨by rw [Int.toNat_of_nonneg hn], rfl⟩
      · cases h
    · cases h
    · cases h
  · rintro ⟨rfl, rfl⟩
    exact if_pos (Int.natCast_nonneg n)

theorem reads_readCount : Reads readCount CountText where
  valueText h := .scalar (.number h.numberText)
  eq_ok := by
    intro cs rest n
    constructor
    · intro h
      obtain ⟨w, hw, hcs⟩ := skipBlanks_spec cs
      rw [readCount] at h
      split at h
      · cases h
      · next c more hskip =>
          split at h
          · simp only [] at h
            split at h
            -- Behind a minus there is no count, not even zero: that is read as a double.
            · obtain ⟨⟨number, behind⟩, hnumber, h⟩ := Except.bind_eq_ok.mp h
              obtain ⟨rfl, rfl⟩ := countOf_eq_ok.mp h
              obtain ⟨_, _, _, _, hvalue⟩ := readNumber_eq_int.mp hnumber
              cases (integerValue_eq_int.mp hvalue).1
            · obtain ⟨⟨number, behind⟩, hnumber, h⟩ := Except.bind_eq_ok.mp h
              obtain ⟨rfl, rfl⟩ := countOf_eq_ok.mp h
              obtain ⟨v, hv, hbehind, heq, hvalue⟩ := readNumber_eq_int.mp hnumber
              obtain ⟨-, hn, hword⟩ := integerValue_eq_int.mp hvalue
              exact ⟨w, v, hw, ⟨hv, hn, hword⟩, fun _ => hbehind, by rw [hcs, hskip, heq]⟩
          · cases h
    · rintro ⟨w, v, hw, hcount, hrest, rfl⟩
      have hends := hrest hcount.numberText
      obtain ⟨hv, hn, hword⟩ := hcount
      have hnumber : readNumber false (v ++ rest) = .ok (.int n, rest) :=
        readNumber_eq_int.mpr ⟨v, hv, hends, rfl, integerValue_eq_int.mpr ⟨rfl, hn, hword⟩⟩
      obtain ⟨c, more, rfl, hc⟩ := hv.1.exists_cons
      have hminus : c ≠ '-' := by
        rintro rfl
        cases hc
      rw [readCount, skipBlanks_append hw, List.cons_append,
        skipBlanks_cons (isBlank_of_isDigit hc)]
      simp only [if_pos (Or.inr hc : c = '-' ∨ c.isDigit = true), if_neg hminus]
      exact Except.bind_eq_ok.mpr ⟨_, hnumber, countOf_eq_ok.mpr ⟨rfl, rfl⟩⟩

/-! ## What may be left out -/

theorem ValueText.eq_null {more : List Char} (h : ValueText ('n' :: more)) :
    more = ['u', 'l', 'l'] := by
  generalize hv : 'n' :: more = v at h
  cases h with
  | empty frame _ => cases frame <;> cases hv
  | filled frame _ => cases frame <;> cases hv
  | scalar h =>
      cases h with
      | null => exact (List.cons.inj hv).2
      | true => cases hv
      | false => cases hv
      | string _ => cases hv
      | number h =>
          rw [← hv] at h
          exact absurd h (not_numberText (by decide) more)

theorem readWord_eq_ok {word cs rest : List Char} :
    readWord word cs = .ok rest ↔ cs = word ++ rest := by
  induction word generalizing cs with
  | nil =>
      rw [readWord, List.nil_append]
      exact ⟨Except.ok.inj, congrArg Except.ok⟩
  | cons w word ih =>
      cases cs with
      | nil => exact iff_of_false nofun nofun
      | cons c cs =>
          rw [readWord, List.cons_append, List.cons.injEq]
          split
          · next hc => exact ih.trans ⟨fun h => ⟨hc, h⟩, And.right⟩
          · next hc => exact iff_of_false nofun fun h => hc h.1

section

variable {α : Type} {token : List Char → α → Prop} {read : Reader α}

theorem Reads.readOptional (h : Reads read token) (hnull : ∀ a, ¬ token ['n', 'u', 'l', 'l'] a) :
    Reads (readOptional read) (OptionalText token) where
  valueText := OptionalText.valueText h.valueText
  eq_ok := by
    intro cs rest a
    constructor
    · intro hread
      obtain ⟨w, hw, hcs⟩ := skipBlanks_spec cs
      rw [Json.readOptional] at hread
      split at hread
      · next more hskip =>
          obtain ⟨behind, hword, hread⟩ := Except.bind_eq_ok.mp hread
          cases hread
          rw [readWord_eq_ok] at hword
          refine ⟨w, _, hw, .null, fun hnumber => ?_, by rw [hcs, hskip, hword]; rfl⟩
          exact absurd hnumber (not_numberText (by decide) _)
      · obtain ⟨⟨a, behind⟩, hvalue, hread⟩ := Except.bind_eq_ok.mp hread
        cases hread
        obtain ⟨w', v, hw', hv, hrest, heq⟩ := h.eq_ok.mp hvalue
        refine ⟨w ++ w', v, hw.append hw', .some hv, hrest, ?_⟩
        rw [hcs, heq, List.append_assoc]
    · rintro ⟨w, v, hw, hv, hrest, rfl⟩
      rw [Json.readOptional, skipBlanks_value hw (hv.valueText h.valueText)]
      cases hv with
      | null =>
          exact Except.bind_eq_ok.mpr ⟨rest, readWord_eq_ok.mpr rfl, rfl⟩
      | some hv =>
          have hread := h.eq_ok.mpr ⟨[], v, .nil, hv, hrest, rfl⟩
          split
          · next more heq =>
              obtain ⟨c, v, rfl, -⟩ := (h.valueText hv).exists_cons
              cases heq
              rw [(h.valueText hv).eq_null] at hv
              exact absurd hv (hnull _)
          · exact Except.bind_eq_ok.mpr ⟨_, hread, rfl⟩

/-! ## Lists -/

/-- The loop puts what it reads in front of what it has. -/
def readItem (read : Reader α) (items : List α) : Reader (List α) := fun cs => do
  let (item, rest) ← read cs
  return (item :: items, rest)

theorem readItem_eq_ok {items items' : List α} {cs rest : List Char} :
    readItem read items cs = .ok (items', rest) ↔
      ∃ a, read cs = .ok (a, rest) ∧ items' = a :: items := by
  rw [readItem, Except.bind_eq_ok]
  constructor
  · rintro ⟨⟨a, behind⟩, hread, h⟩
    cases h
    exact ⟨a, hread, rfl⟩
  · rintro ⟨a, hread, rfl⟩
    exact ⟨_, hread, rfl⟩

/-- From behind an item, the loop reads the items that follow. -/
theorem Reads.itemsTail_of_readItems (h : Reads read token) {fuel : Nat} {acc items : List α}
    {cs rest : List Char} (hread : readItems (readItem read) fuel false acc cs = .ok (items, rest)) :
    ∃ tail more, ItemsTail token tail more ∧ cs = tail ++ rest ∧ items = more.reverse ++ acc := by
  -- One round reads the closing bracket, or a comma and an item.
  induction fuel generalizing acc cs with
  | zero => cases hread
  | succ fuel ih =>
      obtain ⟨w, hw, hcs⟩ := skipBlanks_spec cs
      rw [readItems] at hread
      split at hread
      · cases hread
      · next c behind hskip =>
          rw [hskip] at hcs
          split at hread
          · next hclose =>
              cases hread
              exact ⟨_, [], .close hw, by rw [hcs, hclose]; simp, rfl⟩
          · rw [if_neg (by decide)] at hread
            split at hread
            · next hcomma =>
                obtain ⟨w', hw', hbehind⟩ := skipBlanks_spec behind
                split at hread
                · cases hread
                · next d behind' hskip' =>
                    rw [hskip'] at hbehind
                    split at hread
                    · cases hread
                    · obtain ⟨⟨acc', after⟩, hitem, hloop⟩ := Except.bind_eq_ok.mp hread
                      obtain ⟨a, ha, rfl⟩ := readItem_eq_ok.mp hitem
                      obtain ⟨w'', v, hw'', hv, -, heq⟩ := h.eq_ok.mp ha
                      obtain ⟨tail, more, htail, rfl, rfl⟩ := ih hloop
                      refine ⟨_, a :: more, .comma hw (hw'.append hw'') hv htail, ?_, by simp⟩
                      rw [hcs, hcomma, hbehind, heq]
                      simp
            · cases hread

theorem Reads.readItems_append (h : Reads read token) {tail : List Char} {items : List α}
    (htail : ItemsTail token tail items) (acc : List α) (rest : List Char) :
    ∀ fuel, tail.length < fuel →
      readItems (readItem read) fuel false acc (tail ++ rest) =
        .ok (items.reverse ++ acc, rest) := by
  induction htail generalizing acc with
  | close hw =>
      intro fuel hfuel
      obtain ⟨fuel, rfl⟩ := Nat.exists_eq_succ_of_ne_zero (Nat.ne_zero_of_lt hfuel)
      rw [readItems, List.append_assoc, skipBlanks_append hw, List.singleton_append,
        skipBlanks_cons (by decide)]
      rfl
  | @comma w w' v tail a items hw hw' hv htail ih =>
      intro fuel hfuel
      obtain ⟨fuel, rfl⟩ := Nat.exists_eq_succ_of_ne_zero (Nat.ne_zero_of_lt hfuel)
      have hitem : readItem read acc (v ++ (tail ++ rest)) = .ok (a :: acc, tail ++ rest) :=
        readItem_eq_ok.mpr ⟨a, h.eq_ok.mpr ⟨[], v, .nil, hv, fun _ => htail.endsNumber rest, rfl⟩, rfl⟩
      have hloop := ih (a :: acc) fuel (by
        simp only [List.length_append, List.length_cons] at hfuel
        omega)
      rw [List.reverse_cons, List.append_assoc]
      rw [readItems, List.append_assoc, skipBlanks_append hw, List.cons_append,
        skipBlanks_cons (by decide)]
      simp only [List.append_assoc, skipBlanks_value hw' (h.valueText hv)]
      obtain ⟨c, more, rfl, hc⟩ := (h.valueText hv).exists_cons
      rw [List.cons_append] at hitem ⊢
      simp only [if_neg hc.2.2.1]
      exact Except.bind_eq_ok.mpr ⟨_, hitem, hloop⟩

theorem Reads.readArray_eq_ok (h : Reads read token) {cs rest : List Char} {items : List α} :
    readArray (readItem read) [] cs = .ok (items.reverse, rest) ↔
      ∃ body, ListText token ('[' :: body) items ∧ cs = body ++ rest := by
  constructor
  · intro hread
    obtain ⟨w, hw, hcs⟩ := skipBlanks_spec cs
    rw [readArray, readItems] at hread
    split at hread
    · cases hread
    · next c behind hskip =>
        rw [hskip] at hcs
        split at hread
        · next hclose =>
            obtain ⟨hitems, rfl⟩ := Prod.mk.inj (Except.ok.inj hread)
            obtain rfl := List.reverse_eq_nil_iff.mp hitems.symm
            exact ⟨_, .empty hw, by rw [hcs, hclose]; simp⟩
        · rw [if_pos rfl] at hread
          obtain ⟨⟨acc, after⟩, hitem, hloop⟩ := Except.bind_eq_ok.mp hread
          obtain ⟨a, ha, rfl⟩ := readItem_eq_ok.mp hitem
          obtain ⟨w', v, hw', hv, -, heq⟩ := h.eq_ok.mp ha
          obtain ⟨tail, more, htail, rfl, hitems⟩ := h.itemsTail_of_readItems hloop
          obtain rfl : items = a :: more := by simpa using congrArg List.reverse hitems
          refine ⟨_, .items (hw.append hw') hv htail, ?_⟩
          rw [hcs, heq]
          simp
  · rintro ⟨body, hbody, rfl⟩
    rw [readArray, readItems]
    cases hbody with
    | empty hw =>
        rw [List.append_assoc, skipBlanks_append hw, List.singleton_append,
          skipBlanks_cons (by decide)]
        rfl
    | @items w v tail a items hw hv htail =>
        have hitem : readItem read [] (v ++ (tail ++ rest)) = .ok ([a], tail ++ rest) :=
          readItem_eq_ok.mpr
            ⟨a, h.eq_ok.mpr ⟨[], v, .nil, hv, fun _ => htail.endsNumber rest, rfl⟩, rfl⟩
        have hloop := h.readItems_append htail [a] rest (w ++ (v ++ tail) ++ rest).length (by
          obtain ⟨c, more, rfl, -⟩ := (h.valueText hv).exists_cons
          simp only [List.length_append, List.length_cons]
          omega)
        simp only [List.append_assoc, skipBlanks_value hw (h.valueText hv)] at hloop ⊢
        obtain ⟨c, more, rfl, hc⟩ := (h.valueText hv).exists_cons
        rw [List.cons_append] at hitem ⊢
        simp only [if_neg hc.2.2.1, List.reverse_cons]
        exact Except.bind_eq_ok.mpr ⟨_, hitem, hloop⟩

theorem ListText.exists_cons {v : List Char} {items : List α} (h : ListText token v items) :
    ∃ body, v = '[' :: body := by
  cases h with
  | empty _ => exact ⟨_, rfl⟩
  | items _ _ _ => exact ⟨_, rfl⟩

theorem Reads.readList (h : Reads read token) : Reads (readList read) (ListText token) where
  valueText := ListText.valueText h.valueText
  eq_ok := by
    intro cs rest items
    constructor
    · intro hread
      obtain ⟨w, hw, hcs⟩ := skipBlanks_spec cs
      rw [Json.readList] at hread
      split at hread
      · next behind hskip =>
          obtain ⟨⟨reversed, after⟩, harray, hread⟩ := Except.bind_eq_ok.mp hread
          cases hread
          rw [← reversed.reverse_reverse] at harray
          obtain ⟨body, hbody, rfl⟩ := h.readArray_eq_ok.mp harray
          refine ⟨w, _, hw, hbody, fun hnumber => ?_, by rw [hcs, hskip]; rfl⟩
          exact absurd hnumber (not_numberText (by decide) _)
      · cases hread
    · rintro ⟨w, v, hw, hv, -, rfl⟩
      obtain ⟨body, rfl⟩ := hv.exists_cons
      rw [Json.readList, skipBlanks_append hw, List.cons_append, skipBlanks_cons (by decide)]
      refine Except.bind_eq_ok.mpr ⟨_, h.readArray_eq_ok.mpr ⟨body, hv, rfl⟩, ?_⟩
      show Except.ok (items.reverse.reverse, rest) = _
      rw [List.reverse_reverse]

end

end Rollup.Json
