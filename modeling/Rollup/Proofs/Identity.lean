import Rollup.Event
import Rollup.Proofs.Binary64.Plain
import Rollup.Proofs.Dataspace
import Rollup.Proofs.Entries
import Rollup.Proofs.Text

/-!
# What an identity tells apart

An identity with properties is taken apart from its ends. The dataspace holds
no slash, so the first slash ends it, and the hash has 64 digits, so the type
lies between. The text under the hash is taken apart from the front, and there
nothing is escaped: a key ends at the first `=`, a value at the first `&` after
it. A key with an `=` in it or a text with an `&` can therefore pass for other
properties, and since a number stands as its plain text, it cannot be told from
the text of its digits. An identity without properties is the type as it is,
which may spell any other identity.

One theorem on identities that are equal says that this is all, and the one after
it has an example of each. What never happens, with properties on both sides, is
that two dataspaces or two types are confused.
-/

namespace Rollup

/-! ## Dataspace, type and hash -/

theorem toList_hash (text : String) :
    (Sha256.hash text).toList = (Sha256.digest text.toUTF8.toList).hex := by
  rw [Sha256.hash, String.toList_ofList]

theorem length_hash (text : String) : (Sha256.hash text).toList.length = 64 := by
  rw [toList_hash]
  exact Sha256.Words.hex_length _

theorem eventId_of_isEmpty {d : Dataspace} {eventType : String} {props : Properties}
    (h : props.isEmpty = true) : eventId d eventType props = eventType := by
  rw [eventId, if_pos h]

theorem toList_eventId {d : Dataspace} {eventType : String} {props : Properties}
    (h : props.isEmpty = false) :
    (eventId d eventType props).toList =
      d.name.toList ++ '/' :: (eventType.toList ++
        ('_' :: (Sha256.hash (String.ofList props.identityText)).toList)) := by
  rw [eventId, if_neg (by simp [h])]
  simp only [String.toList_append, List.append_assoc]
  rfl

/-- With properties, an identity gives its dataspace, its type and its hash. -/
theorem eventId_parts {d₁ d₂ : Dataspace} {t₁ t₂ : String} {p₁ p₂ : Properties}
    (h₁ : p₁.isEmpty = false) (h₂ : p₂.isEmpty = false)
    (h : eventId d₁ t₁ p₁ = eventId d₂ t₂ p₂) :
    d₁ = d₂ ∧ t₁ = t₂ ∧ Sha256.hash (String.ofList p₁.identityText) =
      Sha256.hash (String.ofList p₂.identityText) := by
  have hlist := congrArg String.toList h
  rw [toList_eventId h₁, toList_eventId h₂] at hlist
  obtain ⟨hname, hrest⟩ :=
    Text.append_cons_inj_of_not_mem d₁.slash_not_mem d₂.slash_not_mem hlist
  obtain ⟨htype, hhash⟩ := List.append_inj' hrest (by
    rw [List.length_cons, List.length_cons, length_hash, length_hash])
  exact ⟨Dataspace.eq_of_name (String.toList_inj.mp hname), String.toList_inj.mp htype,
    String.toList_inj.mp (List.cons.inj hhash).2⟩

/-! ## The text under the hash -/

namespace Properties

/-- No key has an `=` in it, and no text an `&`. -/
def Framed (props : Properties) : Prop :=
  ∀ entry ∈ props.entries, '=' ∉ entry.1.toList ∧
    ∀ text, entry.2 = .text text → '&' ∉ text.toList

/-- The text of some entries. -/
def entriesText (entries : Entries PropValue) : List Char :=
  entries.flatMap fun (key, value) => key.toList ++ '=' :: (value.display ++ ['&'])

theorem entriesText_cons (entry : String × PropValue) (rest : Entries PropValue) :
    entriesText (entry :: rest) =
      entry.1.toList ++ '=' :: (entry.2.display ++ '&' :: entriesText rest) := by
  rw [entriesText, List.flatMap_cons, List.append_assoc]
  simp [entriesText]

theorem entriesText_cons_ne_nil (entry : String × PropValue) (rest : Entries PropValue) :
    entriesText (entry :: rest) ≠ [] := by
  rw [entriesText_cons]
  exact List.append_ne_nil_of_right_ne_nil _ (List.cons_ne_nil _ _)

theorem amp_not_mem_display {value : PropValue}
    (h : ∀ text, value = .text text → '&' ∉ text.toList) : '&' ∉ value.display := by
  cases value with
  | number x => exact Binary64.amp_not_mem_plain x
  | text s => exact h s rfl

/-- Entries that are framed and have one text have the same keys, and under each
key values of one text. -/
theorem entriesText_inj {as bs : Entries PropValue}
    (ha : ∀ entry ∈ as, '=' ∉ entry.1.toList ∧
      ∀ text, entry.2 = .text text → '&' ∉ text.toList)
    (hb : ∀ entry ∈ bs, '=' ∉ entry.1.toList ∧
      ∀ text, entry.2 = .text text → '&' ∉ text.toList)
    (h : entriesText as = entriesText bs) :
    List.Forall₂ (fun a b => a.1 = b.1 ∧ a.2.display = b.2.display) as bs := by
  induction as generalizing bs with
  | nil =>
      cases bs with
      | nil => exact .nil
      | cons b bs => exact absurd h.symm (entriesText_cons_ne_nil b bs)
  | cons a as ih =>
      cases bs with
      | nil => exact absurd h (entriesText_cons_ne_nil a as)
      | cons b bs =>
          obtain ⟨hakey, hatext⟩ := ha a List.mem_cons_self
          obtain ⟨hbkey, hbtext⟩ := hb b List.mem_cons_self
          rw [entriesText_cons, entriesText_cons] at h
          obtain ⟨hkey, hrest⟩ := Text.append_cons_inj_of_not_mem hakey hbkey h
          obtain ⟨hvalue, hrest⟩ := Text.append_cons_inj_of_not_mem
            (amp_not_mem_display hatext) (amp_not_mem_display hbtext) hrest
          refine .cons ⟨String.toList_inj.mp hkey, hvalue⟩ (ih ?_ ?_ hrest)
          · exact fun entry hentry => ha entry (List.mem_cons_of_mem _ hentry)
          · exact fun entry hentry => hb entry (List.mem_cons_of_mem _ hentry)

end Properties

namespace PropValue

/-- Values that are equal, or a number and the text of its digits. -/
inductive SpelledAlike : PropValue → PropValue → Prop
  | same (value : PropValue) : SpelledAlike value value
  | numberText (x : Binary64) : SpelledAlike (number x) (text (String.ofList x.plain))
  | textNumber (x : Binary64) : SpelledAlike (text (String.ofList x.plain)) (number x)

theorem spelledAlike_of_display {v w : PropValue} (h : v.display = w.display) :
    SpelledAlike v w := by
  match v, w with
  | number x, number y =>
      cases Binary64.plain_injective h
      exact .same _
  | number x, text s =>
      cases String.toList_inj.mp ((String.toList_ofList).trans h)
      exact .numberText x
  | text s, number x =>
      cases String.toList_inj.mp ((String.toList_ofList).trans h.symm)
      exact .textNumber x
  | text s, text t =>
      cases String.toList_inj.mp h
      exact .same _

/-- Values of one kind are alike only if they are equal. -/
theorem SpelledAlike.eq {v w : PropValue} (h : SpelledAlike v w)
    (hkind : (∃ x, v = number x) ↔ ∃ y, w = number y) : v = w := by
  cases h with
  | same => rfl
  | numberText x =>
      obtain ⟨y, hy⟩ := hkind.mp ⟨x, rfl⟩
      cases hy
  | textNumber x =>
      obtain ⟨y, hy⟩ := hkind.mpr ⟨x, rfl⟩
      cases hy

end PropValue

/-! ## Identities that are equal -/

namespace Properties

theorem identityText_eq_nil_iff {props : Properties} :
    props.identityText = [] ↔ props.isEmpty = true := by
  rw [Dict.isEmpty, List.isEmpty_iff]
  change entriesText props.entries = [] ↔ _
  cases hentries : props.entries with
  | nil => exact ⟨fun _ => rfl, fun _ => rfl⟩
  | cons entry rest =>
      exact ⟨fun h => absurd h (entriesText_cons_ne_nil entry rest), fun h => by cases h⟩

/-- Under each key that both have, the two values are of one kind. -/
def SameKinds (p q : Properties) : Prop :=
  ∀ key v w, p.get? key = some v → q.get? key = some w →
    ((∃ x, v = .number x) ↔ ∃ y, w = .number y)

/-- Framed properties of one text have the same keys, and under each key values
that are spelled alike. -/
theorem spelledAlike_of_identityText {p q : Properties} (hp : p.Framed) (hq : q.Framed)
    (h : p.identityText = q.identityText) :
    p.keys = q.keys ∧
      ∀ key v w, p.get? key = some v → q.get? key = some w → v.SpelledAlike w := by
  have hall := entriesText_inj hp hq h
  refine ⟨Entries.keys_eq_of_forall₂ (R := fun v w => v.display = w.display) hall, ?_⟩
  intro key v w hv hw
  exact PropValue.spelledAlike_of_display
    (Entries.get?_forall₂ (R := fun v w => v.display = w.display) hall hv hw)

theorem eq_of_identityText {p q : Properties} (hp : p.Framed) (hq : q.Framed)
    (h : p.identityText = q.identityText) (hkinds : p.SameKinds q) : p = q := by
  have hall := entriesText_inj hp hq h
  refine Dict.ext (List.forall₂_eq_eq_eq ▸ ?_)
  refine (List.forall₂_iff_zip.mpr ⟨hall.length_eq, fun {a b} hab => ?_⟩)
  obtain ⟨hkey, hvalue⟩ := List.forall₂_iff_zip.mp hall |>.2 hab
  have ha := p.ascending.get?_of_mem (List.of_mem_zip hab).1
  have hb := q.ascending.get?_of_mem (List.of_mem_zip hab).2
  have hspelled := PropValue.spelledAlike_of_display hvalue
  exact Prod.ext hkey (hspelled.eq (hkinds a.1 _ _ ha (hkey ▸ hb)))

end Properties

theorem eventId_congr {d : Dataspace} {eventType : String} {p q : Properties}
    (h : p.identityText = q.identityText) : eventId d eventType p = eventId d eventType q := by
  have hempty : p.isEmpty = q.isEmpty := by
    rw [Bool.eq_iff_iff, ← Properties.identityText_eq_nil_iff,
      ← Properties.identityText_eq_nil_iff, h]
  rw [eventId, eventId, hempty, h]

/-- With properties on both sides, type and text have to be the same. -/
theorem eventId_eq_iff_of_properties {d : Dataspace} {t₁ t₂ : String} {p₁ p₂ : Properties}
    (noCollision : Sha256.hash (String.ofList p₁.identityText) =
      Sha256.hash (String.ofList p₂.identityText) → p₁.identityText = p₂.identityText)
    (h₁ : p₁.isEmpty = false) (h₂ : p₂.isEmpty = false) :
    eventId d t₁ p₁ = eventId d t₂ p₂ ↔ t₁ = t₂ ∧ p₁.identityText = p₂.identityText := by
  constructor
  · intro h
    obtain ⟨-, htype, hhash⟩ := eventId_parts h₁ h₂ h
    exact ⟨htype, noCollision hhash⟩
  · rintro ⟨rfl, htext⟩
    exact eventId_congr htext

/-- When two identities of a dataspace are equal, for properties whose texts do
not collide. Either type and text are the same, or an event without properties
has a type that is the whole identity of the other. One text means properties
that are spelled alike where they are framed, and the same properties where no
number meets a text. -/
theorem eventId_eq_iff {d : Dataspace} {t₁ t₂ : String} {p₁ p₂ : Properties}
    (noCollision : Sha256.hash (String.ofList p₁.identityText) =
      Sha256.hash (String.ofList p₂.identityText) → p₁.identityText = p₂.identityText) :
    (eventId d t₁ p₁ = eventId d t₂ p₂ ↔
      (t₁ = t₂ ∧ p₁.identityText = p₂.identityText) ∨
      (p₁.isEmpty = true ∧ p₂.isEmpty = false ∧ t₁ = eventId d t₂ p₂) ∨
      (p₁.isEmpty = false ∧ p₂.isEmpty = true ∧ t₂ = eventId d t₁ p₁)) ∧
    (p₁.identityText = p₂.identityText → p₁.Framed → p₂.Framed →
      p₁.keys = p₂.keys ∧
      (∀ key v w, p₁.get? key = some v → p₂.get? key = some w → v.SpelledAlike w) ∧
      (p₁.SameKinds p₂ → p₁ = p₂)) := by
  refine ⟨?_, fun htext hp hq => ?_⟩
  · have hempty : p₁.identityText = p₂.identityText → p₁.isEmpty = p₂.isEmpty := by
      intro heq
      rw [Bool.eq_iff_iff, ← Properties.identityText_eq_nil_iff,
        ← Properties.identityText_eq_nil_iff, heq]
    cases h₁ : p₁.isEmpty <;> cases h₂ : p₂.isEmpty
    · rw [eventId_eq_iff_of_properties noCollision h₁ h₂]
      simp
    · have htext : p₁.identityText ≠ p₂.identityText := by
        intro heq
        rw [hempty heq, h₂] at h₁
        cases h₁
      rw [eventId_of_isEmpty h₂]
      simp [htext, eq_comm]
    · have htext : p₁.identityText ≠ p₂.identityText := by
        intro heq
        rw [hempty heq, h₂] at h₁
        cases h₁
      rw [eventId_of_isEmpty h₁]
      simp [htext]
    · rw [eventId_of_isEmpty h₁, eventId_of_isEmpty h₂,
        Properties.identityText_eq_nil_iff.mpr h₁, Properties.identityText_eq_nil_iff.mpr h₂]
      simp
  · obtain ⟨hkeys, halike⟩ := Properties.spelledAlike_of_identityText hp hq htext
    exact ⟨hkeys, halike, Properties.eq_of_identityText hp hq htext⟩

/-- A dataspace for examples. -/
def Dataspace.sample : Dataspace := ⟨"default", by decide, by decide⟩

/-- Properties with a single tag. -/
def Properties.tagged (tag : String) : Properties := .ofPairs [("tag", .text tag)]

theorem eventId_tagged_ne :
    eventId .sample "evt" (.tagged "x") ≠ eventId .sample "evt" (.tagged "y") := by
  intro h
  have hhash : Sha256.hash (String.ofList (Properties.tagged "x").identityText) ≠
      Sha256.hash (String.ofList (Properties.tagged "y").identityText) := by
    decide +kernel
  rcases (eventId_eq_iff fun heq => absurd heq hhash).1.mp h with ⟨-, h⟩ | ⟨h, -⟩ | ⟨-, h, -⟩
  · exact absurd h (by decide +kernel)
  · exact absurd h (by decide)
  · exact absurd h (by decide)

/-- Different events of one identity: by an `&` in a text, by an `=` in a key, by
a number and the text of its digits, and by a type that spells an identity. -/
theorem eventId_confuses :
    (∃ p q : Properties, p = .ofPairs [("a", .text "1&b=2")] ∧
      q = .ofPairs [("a", .text "1"), ("b", .text "2")] ∧
      eventId .sample "evt" p = eventId .sample "evt" q ∧ p ≠ q) ∧
    (∃ p q : Properties, p = .ofPairs [("a=b", .text "c")] ∧
      q = .ofPairs [("a", .text "b=c")] ∧
      eventId .sample "evt" p = eventId .sample "evt" q ∧ p ≠ q) ∧
    (∃ p q : Properties, p = .ofPairs [("a", .number (.ofInt 1))] ∧
      q = .ofPairs [("a", .text "1")] ∧
      eventId .sample "evt" p = eventId .sample "evt" q ∧ p ≠ q) ∧
    (∃ spelled, spelled = eventId .sample "evt" (.tagged "x") ∧
      eventId .sample spelled ∅ = eventId .sample "evt" (.tagged "x") ∧ spelled ≠ "evt") := by
  refine ⟨⟨_, _, rfl, rfl, eventId_congr (by decide +kernel), by decide +kernel⟩,
    ⟨_, _, rfl, rfl, eventId_congr (by decide +kernel), by decide +kernel⟩,
    ⟨_, _, rfl, rfl, eventId_congr (by decide +kernel), by decide +kernel⟩,
    ⟨_, rfl, eventId_of_isEmpty rfl, ?_⟩⟩
  intro h
  have hlist := congrArg String.toList h
  rw [toList_eventId (by decide)] at hlist
  have hslash : '/' ∈ "evt".toList := hlist ▸ by simp
  exact absurd hslash (by decide)

/-! ## Identities of several dataspaces -/

/-- Two identities with properties, of dataspaces that were accepted from texts, are equal if and
only if dataspace, type and hash are. The dataspaces are the same if their texts have one normal
form. Whatever stands in its type, no event of another dataspace or type has the same identity. -/
theorem eventId_framed {raw₁ raw₂ : String} {d₁ d₂ : Dataspace}
    (hd₁ : Dataspace.ofText raw₁ = .ok d₁) (hd₂ : Dataspace.ofText raw₂ = .ok d₂)
    {t₁ t₂ : String} {p₁ p₂ : Properties} (h₁ : p₁.isEmpty = false) (h₂ : p₂.isEmpty = false) :
    (eventId d₁ t₁ p₁ = eventId d₂ t₂ p₂ ↔
      d₁ = d₂ ∧ t₁ = t₂ ∧ Sha256.hash (String.ofList p₁.identityText) =
        Sha256.hash (String.ofList p₂.identityText)) ∧
    (d₁ = d₂ ↔ Dataspace.normalize raw₁ = Dataspace.normalize raw₂) ∧
    ∀ e₁ e₂ : Event, e₁.props.isEmpty = false → e₂.props.isEmpty = false →
      e₁.dataspace ≠ e₂.dataspace ∨ e₁.eventType ≠ e₂.eventType → e₁.id ≠ e₂.id := by
  refine ⟨⟨eventId_parts h₁ h₂, ?_⟩, ?_, ?_⟩
  · rintro ⟨rfl, rfl, hhash⟩
    apply String.toList_inj.mp
    rw [toList_eventId h₁, toList_eventId h₂, hhash]
  · rw [← Dataspace.ofText_eq_ok.mp hd₁, ← Dataspace.ofText_eq_ok.mp hd₂]
    exact ⟨congrArg Dataspace.name, Dataspace.eq_of_name⟩
  · intro e₁ e₂ hprops₁ hprops₂ hne hid
    obtain ⟨hdataspace, htype, -⟩ := eventId_parts hprops₁ hprops₂ hid
    rcases hne with hne | hne
    · exact hne hdataspace
    · exact hne htype

/-- Types with slashes and underscores, in a dataspace that is spelled in two ways. -/
theorem eventId_framed_slashes :
    Dataspace.ofText " Default" = .ok .sample ∧ Dataspace.ofText "DEFAULT\n" = .ok .sample ∧
      (Properties.tagged "x").isEmpty = false ∧
      eventId .sample "a/b_c" (.tagged "x") ≠ eventId .sample "b_c" (.tagged "x") := by
  have hleft : Dataspace.ofText " Default" = .ok .sample :=
    Dataspace.ofText_eq_ok.mpr (by decide +kernel)
  have hright : Dataspace.ofText "DEFAULT\n" = .ok .sample :=
    Dataspace.ofText_eq_ok.mpr (by decide +kernel)
  have hprops : (Properties.tagged "x").isEmpty = false := by decide
  refine ⟨hleft, hright, hprops, fun hid => ?_⟩
  obtain ⟨-, htype, -⟩ := (eventId_framed hleft hright hprops hprops).1.mp hid
  exact absurd htype (by decide)

end Rollup
