import Rollup.Proofs.Identity

/-!
# Identities of equal properties

Properties are compared by what they are, and an identity is taken from what
they look like. The two agree on everything but zero. There are two of it, they
are one number, and the plain text of one has a sign. So properties that are
equal have the same keys and under each of them the same value or two zeros, and
their identity is the same as long as no two different zeros meet.

The text under an identity is not escaped, but that makes no difference here:
the keys are the same in it, and a zero is told from the other by its first
character, whatever follows.
-/

namespace Rollup

/-! ## Numbers and values -/

namespace Binary64

/-- The two zeros. -/
def zero (negative : Bool) : Binary64 := .finite negative ⟨0, by decide⟩

theorem zero_inj {a b : Bool} : zero a = zero b ↔ a = b := by
  simp [zero]

theorem plain_zero (negative : Bool) : (zero negative).plain = signed negative ['0'] := rfl

/-- Numbers are equal if they are one datum, except for `nan`, or if both are zero. -/
theorem sameNumber_iff {x y : Binary64} :
    x.sameNumber y = true ↔ x = y ∧ x ≠ .nan ∨ ∃ a b, x = zero a ∧ y = zero b := by
  cases x with
  | nan => simp [sameNumber, zero]
  | infinite negative => cases y <;> simp [sameNumber, zero]
  | finite negative place =>
      cases y with
      | finite negative' place' =>
          simp only [sameNumber, zero, Bool.and_eq_true, Bool.or_eq_true, decide_eq_true_eq,
            finite.injEq, Fin.ext_iff, ne_eq, reduceCtorEq, not_false_eq_true, and_true]
          constructor
          · rintro ⟨hplace, hsign | hzero⟩
            · exact Or.inl ⟨hsign, hplace⟩
            · exact Or.inr ⟨negative, negative', ⟨rfl, hzero⟩, rfl, hplace ▸ hzero⟩
          · rintro (⟨hsign, hplace⟩ | ⟨_, _, ⟨-, hzero⟩, -, hzero'⟩)
            · exact ⟨hplace, Or.inl hsign⟩
            · exact ⟨hzero.trans hzero'.symm, Or.inr hzero⟩
      | _ => simp [sameNumber, zero]

end Binary64

namespace PropValue

theorem same_iff {v w : PropValue} :
    v.same w = true ↔
      v = w ∧ v ≠ .number .nan ∨ ∃ a b, v = .number (.zero a) ∧ w = .number (.zero b) := by
  cases v <;> cases w <;> simp [same, Binary64.sameNumber_iff]

/-- The texts of equal values are told apart by the first character, whatever stands behind them. -/
theorem display_inj_of_same {v w : PropValue} (h : v.same w = true) {more more' : List Char}
    (heq : v.display ++ more = w.display ++ more') : v = w ∧ more = more' := by
  rcases same_iff.mp h with ⟨rfl, -⟩ | ⟨a, b, rfl, rfl⟩
  · exact ⟨rfl, List.append_cancel_left heq⟩
  · simp only [display, Binary64.plain_zero] at heq
    -- Zeros of different signs: the one text begins with the sign and the other with the digit.
    cases a <;> cases b
    · exact ⟨rfl, List.append_cancel_left heq⟩
    · cases (List.cons.inj heq).1
    · cases (List.cons.inj heq).1
    · exact ⟨rfl, List.append_cancel_left heq⟩

end PropValue

/-! ## Properties -/

namespace Properties

/-- One entry has the key of another and an equal value. -/
def SameEntry (a b : String × PropValue) : Prop := a.1 = b.1 ∧ a.2.same b.2 = true

theorem sameEntries_iff {as bs : Entries PropValue} :
    sameEntries as bs = true ↔ List.Forall₂ SameEntry as bs := by
  induction as generalizing bs with
  | nil => cases bs <;> simp [sameEntries]
  | cons a as ih =>
      cases bs with
      | nil => simp [sameEntries]
      | cons b bs => simp [sameEntries, SameEntry, ih]

theorem entriesText_inj_of_same {as bs : Entries PropValue} (h : List.Forall₂ SameEntry as bs)
    (heq : entriesText as = entriesText bs) : as = bs := by
  induction h with
  | nil => rfl
  | @cons a b as bs hentry _ ih =>
      -- With one key in front, both values begin at the same place of the text.
      obtain ⟨hkey, hsame⟩ := hentry
      rw [entriesText_cons, entriesText_cons, hkey] at heq
      obtain ⟨hvalue, hrest⟩ :=
        PropValue.display_inj_of_same hsame (List.cons.inj (List.append_cancel_left heq)).2
      rw [Prod.ext hkey hvalue, ih (List.cons.inj hrest).2]

variable {p q : Properties}

theorem identityText_eq_iff_of_same (h : p.same q = true) :
    p.identityText = q.identityText ↔ p = q :=
  ⟨fun htext => Dict.ext (entriesText_inj_of_same (sameEntries_iff.mp h) htext),
    fun heq => by rw [heq]⟩

/-- Where two zeros meet under a key, they have one sign. -/
def SameZeros (p q : Properties) : Prop :=
  ∀ key a b, p.get? key = some (.number (.zero a)) → q.get? key = some (.number (.zero b)) → a = b

/-- Under each key that both have, there is one value or two zeros. -/
def AlikeButZeros (p q : Properties) : Prop :=
  ∀ key v w, p.get? key = some v → q.get? key = some w →
    v = w ∨ ∃ a b, v = .number (.zero a) ∧ w = .number (.zero b)

theorem same_of_get? (h : p.same q = true) {key : String} {v w : PropValue}
    (hv : p.get? key = some v) (hw : q.get? key = some w) : v.same w = true :=
  Entries.get?_forall₂ (R := fun v w : PropValue => v.same w = true)
    (sameEntries_iff.mp h) hv hw

theorem keys_of_same (h : p.same q = true) : p.keys = q.keys :=
  Entries.keys_eq_of_forall₂ (R := fun v w : PropValue => v.same w = true)
    (sameEntries_iff.mp h)

theorem alikeButZeros_of_same (h : p.same q = true) : p.AlikeButZeros q := by
  intro key v w hv hw
  exact (PropValue.same_iff.mp (same_of_get? h hv hw)).imp_left And.left

theorem eq_iff_sameZeros (h : p.same q = true) : p = q ↔ p.SameZeros q := by
  constructor
  · rintro rfl key a b ha hb
    rw [ha, Option.some.injEq, PropValue.number.injEq, Binary64.zero_inj] at hb
    exact hb
  · intro hzeros
    have hall := sameEntries_iff.mp h
    refine Dict.ext (List.forall₂_eq_eq_eq ▸ List.forall₂_iff_zip.mpr ⟨hall.length_eq, ?_⟩)
    intro x y hxy
    obtain ⟨hkey, -⟩ := (List.forall₂_iff_zip.mp hall).2 hxy
    have hx := p.ascending.get?_of_mem (List.of_mem_zip hxy).1
    have hy := q.ascending.get?_of_mem (List.of_mem_zip hxy).2
    rw [← hkey] at hy
    refine Prod.ext hkey ?_
    rcases alikeButZeros_of_same h _ _ _ hx hy with heq | ⟨a, b, ha, hb⟩
    · exact heq
    · rw [ha] at hx
      rw [hb] at hy
      rw [ha, hb, hzeros _ a b hx hy]

end Properties

/-! ## Identities -/

theorem eventId_eq_iff_hash {d : Dataspace} {eventType : String} {p q : Properties}
    (hp : p.isEmpty = false) (hq : q.isEmpty = false) :
    eventId d eventType p = eventId d eventType q ↔
      Sha256.hash (String.ofList p.identityText) = Sha256.hash (String.ofList q.identityText) := by
  refine ⟨fun h => (eventId_parts hp hq h).2.2, fun hhash => ?_⟩
  apply String.toList_inj.mp
  rw [toList_eventId hp, toList_eventId hq, hhash]

/-- Equal properties whose texts differ are not empty, so their identities are hashed. -/
theorem Properties.isEmpty_of_identityText_ne {p q : Properties} (h : p.same q = true)
    (hne : p.identityText ≠ q.identityText) : p.isEmpty = false ∧ q.isEmpty = false := by
  have hlength := (Properties.sameEntries_iff.mp h).length_eq
  have hempty : p.isEmpty = q.isEmpty := by
    rw [Bool.eq_iff_iff, Dict.isEmpty, Dict.isEmpty, List.isEmpty_iff_length_eq_zero,
      List.isEmpty_iff_length_eq_zero, hlength]
  cases hp : p.isEmpty with
  | false => exact ⟨rfl, hempty ▸ hp⟩
  | true =>
      have hq := hempty ▸ hp
      rw [identityText_eq_nil_iff.mpr hp, identityText_eq_nil_iff.mpr hq] at hne
      exact absurd rfl hne

/-- Equal properties have the same keys and, but for the two zeros, the same values. They have the
same identity if and only if no zero meets the other, or two texts that differ have one hash. -/
theorem eventId_eq_iff_of_same {d : Dataspace} {eventType : String} {p q : Properties}
    (h : p.same q = true) :
    (p.keys = q.keys ∧ p.AlikeButZeros q) ∧
    (eventId d eventType p = eventId d eventType q ↔
      p.SameZeros q ∨ p.identityText ≠ q.identityText ∧
        Sha256.hash (String.ofList p.identityText) = Sha256.hash (String.ofList q.identityText)) := by
  refine ⟨⟨Properties.keys_of_same h, Properties.alikeButZeros_of_same h⟩, ?_⟩
  rw [← Properties.eq_iff_sameZeros h, ← Properties.identityText_eq_iff_of_same h]
  by_cases htext : p.identityText = q.identityText
  · simp [htext, eventId_congr htext]
  · obtain ⟨hp, hq⟩ := Properties.isEmpty_of_identityText_ne h htext
    rw [eventId_eq_iff_hash hp hq]
    simp [htext]

/-- Properties with a number, which may be zero, beside a text. -/
def Properties.measured (value : Binary64) : Properties :=
  .ofPairs [("dt", .number value), ("host", .text "web1")]

theorem eventId_eq_iff_of_same_measured :
    (Properties.measured (.zero true)).same (.measured (.zero false)) = true ∧
      eventId .sample "evt" (.measured (.zero true)) ≠
        eventId .sample "evt" (.measured (.zero false)) := by
  have hsame : (Properties.measured (.zero true)).same (.measured (.zero false)) = true := by
    decide
  refine ⟨hsame, fun hid => ?_⟩
  rcases (eventId_eq_iff_of_same hsame).2.mp hid with hzeros | ⟨-, hhash⟩
  · exact Bool.noConfusion (hzeros "dt" true false (by decide) (by decide))
  · exact absurd hhash (by decide +kernel)

/-- Two properties that are equal, and the two zeros that give them different identities. -/
theorem eventId_separates_zeros :
    ∃ p q : Properties, p = .ofPairs [("dt", .number (.zero false))] ∧
      q = .ofPairs [("dt", .number (.zero true))] ∧ p.same q = true ∧
      eventId .sample "evt" p ≠ eventId .sample "evt" q := by
  refine ⟨_, _, rfl, rfl, by decide, fun hid => ?_⟩
  obtain ⟨-, -, hhash⟩ := eventId_parts (by decide) (by decide) hid
  exact absurd hhash (by decide +kernel)

end Rollup
