import Rollup.Log
import Rollup.Proofs.Breakdown.Grammar
import Rollup.Proofs.Interval

/-!
# Texts on one line

A text is on one line if it holds neither a line feed nor a carriage return.
Numbers, time stamps and intervals are, and a quoted text is, whatever it
quotes, because the controls are the first thing that quoting escapes. So a
message that shows what comes from outside only in quotes is on one line.

Among the errors of reading JSON there are some that show the name of a field as
it is. Those are errors about records, and no reader of a report is one: their
errors are `Nameless`, and the wording of such an error is one line.
-/

namespace Rollup

open Text

namespace Text

/-- Neither a line feed nor a carriage return. -/
def OneLine (cs : List Char) : Prop := ∀ c ∈ cs, c ≠ '\n' ∧ c ≠ '\r'

instance (cs : List Char) : Decidable (OneLine cs) :=
  List.decidableBAll (fun c => c ≠ '\n' ∧ c ≠ '\r') cs

variable {cs ds : List Char} {c : Char}

@[simp] theorem oneLine_nil : OneLine [] := nofun

@[simp] theorem oneLine_cons : OneLine (c :: cs) ↔ (c ≠ '\n' ∧ c ≠ '\r') ∧ OneLine cs :=
  List.forall_mem_cons

@[simp] theorem oneLine_append : OneLine (cs ++ ds) ↔ OneLine cs ∧ OneLine ds :=
  List.forall_mem_append

theorem oneLine_iff : OneLine cs ↔ '\n' ∉ cs ∧ '\r' ∉ cs := by
  rw [OneLine, forall₂_and]
  exact and_congr List.forall_mem_ne' List.forall_mem_ne'

theorem oneLine_append_toList {s t : String} :
    OneLine (s ++ t).toList ↔ OneLine s.toList ∧ OneLine t.toList := by
  rw [String.toList_append, oneLine_append]

theorem oneLine_of_le (h : ∀ c ∈ cs, 0x20 ≤ c.toNat) : OneLine cs := by
  intro c hc
  have hle := h c hc
  constructor
  all_goals
    rintro rfl
    exact absurd hle (by decide)

theorem oneLine_of_isDigit (h : ∀ c ∈ cs, c.isDigit = true) : OneLine cs :=
  oneLine_of_le fun c hc => Nat.le_of_lt (PlainChar.of_isDigit (h c hc)).not_blank

@[simp] theorem oneLine_toDigits (n : Nat) : OneLine (Nat.toDigits 10 n) :=
  oneLine_of_isDigit fun _ hc => Nat.isDigit_of_mem_toDigits (by decide) (by decide) hc

theorem le_of_mem_hexDigits {n : Nat} {c : Char} (h : c ∈ Nat.toDigits 16 n) : 0x20 ≤ c.toNat := by
  have hdigit : ∀ d : Fin 16, 0x20 ≤ (Nat.digitChar d).toNat := by decide
  induction n using Nat.strongRecOn with
  | ind n ih =>
      rcases Nat.lt_or_ge n 16 with hn | hn
      · rw [Nat.toDigits_of_lt_base hn, List.mem_singleton] at h
        rw [h]
        exact hdigit ⟨n, hn⟩
      · rw [Nat.toDigits_of_base_le (by decide) hn, List.mem_append, List.mem_singleton] at h
        rcases h with h | rfl
        · exact ih (n / 16) (by omega) h
        · exact hdigit ⟨n % 16, Nat.mod_lt _ (by decide)⟩

theorem oneLine_padded (width n : Nat) : OneLine (padded width n) :=
  oneLine_of_isDigit fun _ => isDigit_of_mem_padded

@[simp] theorem oneLine_nat (n : Nat) : OneLine (toString n).toList := by
  rw [Nat.toString_eq_repr, Nat.toList_repr]
  exact oneLine_toDigits n

@[simp] theorem oneLine_int (n : Int) : OneLine (toString n).toList := by
  cases n with
  | ofNat n => exact oneLine_nat n
  | negSucc n =>
      show OneLine ("-" ++ toString (n + 1)).toList
      exact oneLine_append_toList.mpr ⟨by decide, oneLine_nat _⟩

/-! ## Quoted texts -/

theorem oneLine_quoteChar (c : Char) : OneLine (quoteChar c) := by
  rw [quoteChar]
  split
  · decide
  split
  · decide
  split
  · decide
  split
  · decide
  split
  · decide
  · next hfeed =>
      split
      · decide
      · next hreturn =>
          split
          · exact List.forall_mem_singleton.mpr ⟨hfeed, hreturn⟩
          · have hcode := oneLine_of_le fun _ => le_of_mem_hexDigits (n := c.toNat)
            exact oneLine_append.mpr ⟨oneLine_append.mpr ⟨by decide, hcode⟩, by decide⟩

@[simp] theorem oneLine_quote (s : String) : OneLine (quote s).toList := by
  have hbody : OneLine (s.toList.flatMap quoteChar) := by
    intro c hc
    obtain ⟨d, -, hd⟩ := List.mem_flatMap.mp hc
    exact oneLine_quoteChar d c hd
  rw [quote, String.toList_ofList]
  exact oneLine_append.mpr ⟨oneLine_cons.mpr ⟨by decide, hbody⟩, by decide⟩

theorem oneLine_intercalate {sep : String} (hsep : OneLine sep.toList) {ss : List String}
    (h : ∀ s ∈ ss, OneLine s.toList) : OneLine (sep.intercalate ss).toList := by
  rw [String.toList_intercalate]
  induction ss with
  | nil => exact oneLine_nil
  | cons s ss ih =>
      obtain ⟨hs, hss⟩ := List.forall_mem_cons.mp h
      cases ss with
      | nil => simpa using hs
      | cons t ts =>
          rw [List.map_cons, List.map_cons, List.intercalate_cons_cons]
          exact oneLine_append.mpr ⟨oneLine_append.mpr ⟨hs, hsep⟩, ih hss⟩

@[simp] theorem oneLine_quoteList (ss : List String) : OneLine (quoteList ss).toList := by
  have hitems : OneLine (", ".intercalate (ss.map quote)).toList := by
    refine oneLine_intercalate (by decide) fun s hs => ?_
    obtain ⟨text, -, rfl⟩ := List.mem_map.mp hs
    exact oneLine_quote text
  simp only [quoteList, oneLine_append_toList]
  exact ⟨⟨by decide, hitems⟩, by decide⟩

/-! ## Times and intervals -/

end Text

@[simp] theorem oneLine_render (i : Interval) : OneLine i.render.toList := by
  rw [Interval.render, String.toList_ofList]
  exact oneLine_of_le fun c hc => Nat.le_of_lt (Interval.plainChar_of_mem_write hc).not_blank

namespace Calendar.Instant

theorem oneLine_writeYear (year : Int) : OneLine (writeYear year) := by
  rw [writeYear]
  split
  · exact oneLine_padded 4 _
  · split <;> simp [oneLine_padded]

theorem oneLine_writeFraction (nano : Nat) : OneLine (writeFraction nano) := by
  rw [writeFraction]
  split
  · exact oneLine_nil
  split
  · simp [oneLine_padded]
  split
  · simp [oneLine_padded]
  · simp [oneLine_padded]

@[simp] theorem oneLine_stampOffset (t : Instant) : OneLine t.stampOffset.toList := by
  rw [stampOffset, String.toList_ofList]
  simp [writeDate, writeClock, oneLine_padded, oneLine_writeYear, oneLine_writeFraction]

end Calendar.Instant

/-! ## Errors of reading -/

namespace Binary64

variable {digits : List Char}

theorem oneLine_take (h : OneLine digits) (n : Nat) : OneLine (digits.take n) :=
  fun c hc => h c (List.mem_of_mem_take hc)

theorem oneLine_drop (h : OneLine digits) (n : Nat) : OneLine (digits.drop n) :=
  fun c hc => h c (List.mem_of_mem_drop hc)

theorem oneLine_positional (h : OneLine digits) (exponent : Int) :
    OneLine (positional digits exponent) := by
  have hzeros (n : Nat) : OneLine (List.replicate n '0') := oneLine_of_isDigit fun c hc => by
    rw [List.eq_of_mem_replicate hc]
    rfl
  rw [positional]
  split
  · simp [h, hzeros]
  · dsimp only
    split
    · simp [oneLine_take h, oneLine_drop h]
    · simp [h, hzeros]

theorem oneLine_scientific (negative : Bool) (place : Nat) :
    OneLine (scientific negative place) := by
  have hsigned {cs : List Char} (h : OneLine cs) : OneLine (signed negative cs) := by
    cases negative with
    | false => exact h
    | true => exact oneLine_cons.mpr ⟨by decide, h⟩
  have hdigits := oneLine_toDigits (shortest .toEven place).coefficient
  rw [scientific]
  refine hsigned ?_
  split
  · decide
  · dsimp only
    split
    · refine oneLine_append.mpr ⟨oneLine_positional hdigits _, ?_⟩
      split <;> decide
    · refine oneLine_append.mpr ⟨oneLine_append.mpr ⟨oneLine_take hdigits 1, ?_⟩, ?_⟩
      · split
        · decide
        · exact oneLine_cons.mpr ⟨by decide, oneLine_drop hdigits 1⟩
      · split <;> simp

end Binary64

namespace Json

theorem oneLine_writeDouble (x : Binary64) : OneLine (writeDouble x) := by
  cases x with
  | finite negative place => exact Binary64.oneLine_scientific negative place
  | nan => decide
  | infinite _ => exact (by decide : OneLine ['n', 'u', 'l', 'l'])

theorem Found.oneLine_name (found : Found) : OneLine found.name.toList := by
  cases found with
  | bool value => cases value <;> decide
  | int n =>
      unfold name
      simp only [oneLine_append_toList]
      exact ⟨⟨by decide, oneLine_int n⟩, by decide⟩
  | double x =>
      unfold name
      simp only [oneLine_append_toList, String.toList_ofList]
      exact ⟨⟨by decide, oneLine_writeDouble x⟩, by decide⟩
  | string s => exact oneLine_append_toList.mpr ⟨by decide, oneLine_quote s⟩
  | null => decide
  | sequence => decide
  | map => decide

/-- An error that shows no name of a record or of its fields. -/
def ReadError.Nameless : ReadError → Prop
  | wrongType _ (.record _) | duplicateField _ | missingField _ | wrongLength .. => False
  | _ => True

theorem ReadError.Nameless.oneLine_message {e : ReadError} (h : e.Nameless) :
    OneLine e.message.toList := by
  cases e with
  | wrongType found wanted =>
      have hwanted : OneLine wanted.name.toList := by
        cases wanted with
        | record name => exact absurd h id
        | string => decide
        | sequence => decide
        | map => decide
        | count => decide
      unfold message
      simp only [oneLine_append_toList]
      exact ⟨⟨⟨by decide, found.oneLine_name⟩, by decide⟩, hwanted⟩
  | unfinished part => cases part <;> decide
  | negativeCount n =>
      unfold message
      simp only [oneLine_append_toList]
      exact ⟨⟨by decide, oneLine_int n⟩, by decide⟩
  | duplicateField _ => exact absurd h id
  | missingField _ => exact absurd h id
  | wrongLength _ _ _ => exact absurd h id
  | _ => decide

/-- If it fails, then with an error that shows no name. -/
def Nameless {α : Type} (result : Except ReadError α) : Prop :=
  ∀ e, result = .error e → e.Nameless

section

variable {α β : Type}

theorem Nameless.ok (a : α) : Nameless (.ok a) := nofun

theorem Nameless.error {e : ReadError} (h : e.Nameless) : Nameless (.error e : Except ReadError α) :=
  fun _ he => Except.error.inj he ▸ h

theorem Nameless.bind {x : Except ReadError α} {f : α → Except ReadError β} (hx : Nameless x)
    (hf : ∀ a, Nameless (f a)) : Nameless (x >>= f) := by
  intro e h
  rcases Except.bind_eq_error.mp h with h | ⟨a, -, h⟩
  · exact hx e h
  · exact hf a e h

end

theorem nameless_readWord (word cs : List Char) : Nameless (readWord word cs) := by
  induction word generalizing cs with
  | nil => exact .ok _
  | cons w word ih =>
      cases cs with
      | nil => exact .error trivial
      | cons c cs =>
          rw [readWord]
          split
          · exact ih cs
          · exact .error trivial

theorem nameless_finiteDouble (x : Binary64) : Nameless (finiteDouble x) := by
  rw [finiteDouble]
  split
  · exact .ok _
  · exact .error trivial

theorem nameless_double (x : Binary64) (cs : List Char) :
    Nameless (finiteDouble x >>= fun d => Except.ok (d, cs)) :=
  .bind (nameless_finiteDouble x) fun d => .ok (d, cs)

theorem nameless_withoutExponent (negative : Bool) (whole fraction cs : List Char) :
    Nameless (if fraction = [] then
        match integerValue negative (Nat.ofDigitChars 10 whole 0) with
        | .double x => finiteDouble x >>= fun d => Except.ok (d, cs)
        | n => .ok (n, cs)
      else finiteDouble (.ofDigits negative whole fraction 0) >>= fun d => Except.ok (d, cs)) := by
  split
  · split
    · exact nameless_double _ _
    · exact .ok _
  · exact nameless_double _ _

theorem nameless_readExponent (negative : Bool) (whole fraction cs : List Char) :
    Nameless (readExponent negative whole fraction cs) := by
  rw [readExponent.eq_def]
  cases cs with
  | nil => exact nameless_withoutExponent _ _ _ _
  | cons mark cs =>
      by_cases hmark : mark = 'e' ∨ mark = 'E'
      · simp only [if_pos hmark]
        split
        all_goals
          split
          · exact .error trivial
          split
          · exact .error trivial
          · exact nameless_double _ _
      · simp only [if_neg hmark]
        exact nameless_withoutExponent _ _ _ _

theorem nameless_readNumber (negative : Bool) (cs : List Char) :
    Nameless (readNumber negative cs) := by
  have hends {cs : List Char} : (if cs = [] then ReadError.unfinished .value
      else .invalidNumber).Nameless := by
    split <;> trivial
  rw [readNumber]
  dsimp only
  split
  · exact .error hends
  split
  · exact .error trivial
  split
  · split
    · exact .error hends
    · exact nameless_readExponent _ _ _ _
  · exact nameless_readExponent _ _ _ _

theorem nameless_readHex (cs : List Char) : Nameless (readHex cs) := by
  have hfault : (if 4 ≤ byteLength cs then ReadError.invalidEscape
      else .unfinished .string).Nameless := by
    split <;> trivial
  rw [readHex.eq_def]
  dsimp only
  split
  · split
    · exact .ok _
    · exact .error hfault
  · exact .error hfault

theorem nameless_readTrailing (leading : Nat) (cs : List Char) :
    Nameless (readTrailing leading cs) := by
  rw [readTrailing.eq_def]
  split
  · exact .error trivial
  · exact .error trivial
  · refine .bind (nameless_readHex _) fun unit => ?_
    dsimp only
    split
    · exact .ok _
    · exact .error trivial
  · exact .error trivial

theorem nameless_readEscape (cs : List Char) : Nameless (readEscape cs) := by
  rw [readEscape.eq_def]
  split
  case h_10 =>
    refine .bind (nameless_readHex _) fun unit => ?_
    dsimp only
    split
    · exact .error trivial
    · split
      · exact nameless_readTrailing _ _
      · exact .ok _
  all_goals
    first
    | exact .ok _
    | exact .error trivial

theorem nameless_readCharacters (fuel : Nat) (cs : List Char) :
    Nameless (readCharacters fuel cs) := by
  induction fuel generalizing cs with
  | zero => exact .error trivial
  | succ fuel ih =>
      cases cs with
      | nil => exact .error trivial
      | cons c cs =>
          rw [readCharacters]
          split
          · exact .ok _
          split
          · exact .bind (nameless_readEscape _) fun _ => .bind (ih _) fun _ => .ok _
          split
          · exact .error trivial
          · exact .bind (ih _) fun _ => .ok _

theorem nameless_readString (cs : List Char) : Nameless (readString cs) :=
  .bind (nameless_readCharacters _ _) fun _ => .ok _

section

variable {wanted : Wanted} (h : ∀ found, (ReadError.wrongType found wanted).Nameless)
include h

theorem nameless_word {read : Except ReadError (List Char)} (hread : Nameless read)
    (found : Found) :
    (match read with
      | .ok _ => ReadError.wrongType found wanted
      | .error e => e).Nameless := by
  split
  · exact h _
  · exact hread _ rfl

theorem nameless_number {read : Except ReadError (Cut Json)} (hread : Nameless read) :
    (match read with
      | .ok (.int n, _) => ReadError.wrongType (.int n) wanted
      | .ok (.double x, _) => .wrongType (.double x) wanted
      | .ok _ => .expectedValue
      | .error e => e).Nameless := by
  split
  · exact h _
  · exact h _
  · trivial
  · exact hread _ rfl

variable (wanted) in
theorem nameless_wrongTypeAt (cs : List Char) : (wrongTypeAt wanted cs).Nameless := by
  cases cs with
  | nil => trivial
  | cons c rest =>
      rw [wrongTypeAt]
      split
      · exact nameless_word h (nameless_readWord _ _) _
      split
      · exact nameless_word h (nameless_readWord _ _) _
      split
      · exact nameless_word h (nameless_readWord _ _) _
      split
      · exact nameless_number h (nameless_readNumber _ _)
      split
      · exact nameless_number h (nameless_readNumber _ _)
      split
      · split
        · exact h _
        · next heq => exact nameless_readString _ _ heq
      split
      · exact h _
      split
      · exact h _
      · trivial

end

theorem nameless_readText (cs : List Char) : Nameless (readText cs) := by
  rw [readText]
  split
  · exact nameless_readString _
  · exact .error (nameless_wrongTypeAt .string (fun _ => trivial) _)

theorem nameless_readColon (cs : List Char) : Nameless (readColon cs) := by
  rw [readColon]
  split
  · exact .error trivial
  · split
    · exact .ok _
    · exact .error trivial

theorem nameless_readMembers {σ : Type} {member : σ → String → Reader σ}
    (hmember : ∀ acc key cs, Nameless (member acc key cs)) (fuel : Nat) (first : Bool) (acc : σ)
    (cs : List Char) : Nameless (readMembers member fuel first acc cs) := by
  induction fuel generalizing first acc cs with
  | zero => exact .error trivial
  | succ fuel ih =>
      rw [readMembers]
      split
      · exact .error trivial
      split
      · exact .ok _
      split
      · split
        · exact .bind (nameless_readString _) fun _ => .bind (hmember _ _ _) fun _ => ih _ _ _
        · exact .error trivial
      split
      · split
        · exact .error trivial
        split
        · exact .bind (nameless_readString _) fun _ => .bind (hmember _ _ _) fun _ => ih _ _ _
        split
        · exact .error trivial
        · exact .error trivial
      · exact .error trivial

/-- A map of texts is no record, so its errors show no name. -/
theorem nameless_readWhole_readMap (cs : List Char) :
    Nameless (readWhole (readMap readText) cs) := by
  have hmap : Nameless (readMap readText cs) := by
    rw [readMap]
    split
    · exact nameless_readMembers (fun _ _ _ =>
        .bind (nameless_readColon _) fun _ => .bind (nameless_readText _) fun _ => .ok _) _ _ _ _
    · exact .error (nameless_wrongTypeAt .map (fun _ => trivial) _)
  refine .bind hmap fun _ => ?_
  dsimp only
  split
  · exact .ok _
  · exact .error trivial

end Json

namespace Breakdown

theorem nameless_readReport (cs : List Char) : Json.Nameless (readReport cs) := by
  rw [readReport]
  split
  · exact .ok _
  · exact Json.nameless_readWhole_readMap _

theorem ChainText.oneLine {chain : List Char} {fields : List String} (h : ChainText chain fields) :
    ∀ field ∈ fields, OneLine field.toList := by
  have hfield {piece : List Char} {field : String} (h : FieldText piece field) :
      OneLine field.toList := by
    intro c hc
    have hchar := (isFieldName_iff.mp h.1).2 c hc
    constructor
    all_goals
      rintro rfl
      exact absurd (isFieldChar_ascii (by decide) hchar) (by decide)
  induction h with
  | last hlast => exact List.forall_mem_singleton.mpr (hfield hlast)
  | more hmore _ ih => exact List.forall_mem_cons.mpr ⟨hfield hmore, ih⟩

theorem oneLine_fields_of_parse {s : String} {b : Breakdown} (h : parse s = .ok b) :
    ∀ field ∈ b.fields, OneLine field.toList := by
  obtain ⟨fields, operations⟩ := b
  cases operations with
  | none => exact ((parse_eq_ok_none s fields).mp h).oneLine
  | some operations =>
      obtain ⟨_, hchain, -, -⟩ := (parse_eq_ok_some s fields operations).mp h
      exact hchain.oneLine

/-- Whatever a breakdown holds, the wording of its fault is one line. -/
theorem oneLine_message_of_parse {s : String} {cause : BreakdownError}
    (h : parse s = .error cause) : OneLine cause.message.toList := by
  cases (parse_eq_error s cause).mp h with
  | malformed _ =>
      simp only [BreakdownError.message, oneLine_append_toList]
      exact ⟨⟨by decide, oneLine_quote s⟩, by decide⟩
  | chain _ hfault =>
      cases hfault with
      | empty _ => decide
      | field _ _ _ _ =>
          simp only [BreakdownError.message, oneLine_append_toList]
          exact ⟨⟨⟨by decide, oneLine_quote s⟩, by decide⟩, oneLine_quote _⟩
  | report _ _ hcause =>
      simp only [BreakdownError.message, oneLine_append_toList]
      exact ⟨⟨⟨by decide, oneLine_quote s⟩, by decide⟩,
        (nameless_readReport _ _ hcause).oneLine_message⟩

end Breakdown

end Rollup
