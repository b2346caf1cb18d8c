import Mathlib.Data.Finset.Card
import Mathlib.Data.List.Induction
import Rollup.Proofs.Event.Reading
import Rollup.Proofs.Identity

/-!
# The order in which properties are put in

Pairs are put into a dictionary one after the other, and what it holds then is
said by looking at the pairs from their end: under each key stands the value
that comes first from there. One insertion adds one pair at the end, so that is
an invariant of every run of insertions. The keys ascend by the type, hence a
dictionary is determined by what stands under its keys, and pairs whose keys
differ may come in any order.

An identity is taken from the dictionary and from nothing else that an event
holds. So whoever lists the properties in order can work it out: the hash is
that of the list, whatever was counted and whenever the event is dated.
-/

namespace Rollup

/-! ## Dictionaries from pairs -/

namespace Dict

variable {α : Type}

/-- A dictionary holds what some pairs put there one after the other: each of their keys once, in
ascending order, with the value of its last pair. -/
structure Collects (pairs : List (String × α)) (d : Dict α) : Prop where
  ascending : d.entries.Pairwise fun a b => a.1 < b.1
  size_eq : d.size = (pairs.map Prod.fst).toFinset.card
  get?_eq : ∀ key, d.get? key = Entries.get? key pairs.reverse

theorem collects_of_get? {pairs : List (String × α)} {d : Dict α}
    (h : ∀ key, d.get? key = Entries.get? key pairs.reverse) : Collects pairs d := by
  refine ⟨d.ascending, ?_, h⟩
  -- A key is there exactly if the look-up finds it, and the look-up goes through all pairs.
  have hmem : ∀ key, key ∈ d.entries.map Prod.fst ↔ (d.get? key).isSome = true :=
    fun key => Entries.isSome_get?_iff.symm
  have hkeys : (pairs.map Prod.fst).toFinset = (d.entries.map Prod.fst).toFinset := by
    ext key
    rw [List.mem_toFinset, List.mem_toFinset, hmem, h, Entries.isSome_get?_iff, List.map_reverse,
      List.mem_reverse]
  rw [hkeys, List.toFinset_card_of_nodup d.ascending.keys_nodup, List.length_map, size]

/-- One insertion is one pair more at the end. -/
theorem Collects.insert {pairs : List (String × α)} {d : Dict α} (h : Collects pairs d)
    (key : String) (value : α) : Collects (pairs ++ [(key, value)]) (d.insert key value) := by
  refine collects_of_get? fun other => ?_
  rw [get?_insert, List.reverse_concat, Entries.get?_cons, h.get?_eq]

/-- A run of insertions holds what its pairs put there. -/
theorem collects_foldl_insert (pairs : List (String × α)) :
    Collects pairs (pairs.foldl (fun d pair => d.insert pair.1 pair.2) ∅) := by
  induction pairs using List.reverseRecOn with
  | nil => exact collects_of_get? fun _ => rfl
  | append_singleton pairs pair ih =>
      rw [List.foldl_append]
      exact ih.insert pair.1 pair.2

theorem foldl_insert_eq_ofPairs (pairs : List (String × α)) :
    pairs.foldl (fun d pair => d.insert pair.1 pair.2) ∅ = ofPairs pairs := by
  have hrun : ∀ d : Dict α, (pairs.foldl (fun d pair => d.insert pair.1 pair.2) d).entries =
      d.entries.insertAll pairs := by
    induction pairs with
    | nil => intro d; rfl
    | cons pair rest ih => intro d; exact ih (d.insert pair.1 pair.2)
  exact ext (hrun ∅)

end Dict

/-! ## Identities -/

theorem Properties.eq_entries {props : Properties} {listed : Entries PropValue}
    (hascending : listed.Ascending) (h : ∀ key, Entries.get? key listed = props.get? key) :
    listed = props.entries := hascending.ext_get? props.ascending h

theorem eventId_of_listed {props : Properties} {listed : Entries PropValue} (d : Dataspace)
    (eventType : String) (hne : props.isEmpty = false) (hascending : listed.Ascending)
    (h : ∀ key, Entries.get? key listed = props.get? key) :
    eventId d eventType props = d.name ++ "/" ++ eventType ++ "_" ++
      Sha256.hash (String.ofList (Properties.entriesText listed)) := by
  rw [eventId, if_neg (by simp [hne]), Properties.eq_entries hascending h]
  rfl

namespace Event

theorem id_foldl_setTime (times : List Calendar.Instant) (e : Event) :
    (times.foldl setTime e).id = e.id := by
  induction times generalizing e with
  | nil => rfl
  | cons time times ih => exact ih (e.setTime time)

/-- An event of some properties is one with any other count, as long as that is finite. -/
theorem exists_make_of_make {dataspace eventType : String} {count other : Binary64}
    {props : Properties} {time : Calendar.Instant} {e : Event}
    (h : make dataspace count eventType props time = .ok e) (hother : other.isFinite = true)
    (time' : Calendar.Instant) :
    make dataspace other eventType props time' = .ok { e with count := other, time := time' } := by
  obtain ⟨d, hd, htype, -, hprops, rfl⟩ := make_eq_ok_iff.mp h
  exact make_eq_ok_iff.mpr ⟨d, hd, htype, hother, hprops, rfl⟩

/-- Properties do not depend on the order in which pairs of different keys are put in, and the last
pair of a key wins; so the identity does not either. It is that of the properties listed in order,
for any event made of them, whatever its count is and whatever times it is given. -/
theorem id_of_insertions (pairs : List (String × PropValue)) :
    (pairs.foldl (fun d pair => d.insert pair.1 pair.2) ∅ = Dict.ofPairs pairs ∧
      Dict.Collects pairs (Dict.ofPairs pairs)) ∧
    (∀ pairs', pairs.Perm pairs' → (pairs.map Prod.fst).Nodup →
      Dict.ofPairs pairs' = Dict.ofPairs pairs ∧
      ∀ d eventType, eventId d eventType (.ofPairs pairs') = eventId d eventType (.ofPairs pairs)) ∧
    ∀ (props : Properties) (eventType : String),
      (∀ d, props.isEmpty = false → ∀ listed : Entries PropValue, listed.Ascending →
        (∀ key, Entries.get? key listed = props.get? key) →
        eventId d eventType props = d.name ++ "/" ++ eventType ++ "_" ++
          Sha256.hash (String.ofList (Properties.entriesText listed))) ∧
      ∀ dataspace count time e, make dataspace count eventType props time = .ok e →
        (∀ times : List Calendar.Instant,
          (times.foldl setTime e).id = eventId e.dataspace eventType props) ∧
        ∀ other time', other.isFinite = true →
          ∃ e', make dataspace other eventType props time' = .ok e' ∧
            ∀ times : List Calendar.Instant, (times.foldl setTime e').id = e.id := by
  refine ⟨⟨Dict.foldl_insert_eq_ofPairs pairs, ?_⟩, fun pairs' hperm hnodup => ?_,
    fun props eventType => ⟨fun d hne listed hascending h =>
      eventId_of_listed d eventType hne hascending h, fun dataspace count time e hmake => ?_⟩⟩
  · rw [← Dict.foldl_insert_eq_ofPairs]
    exact Dict.collects_foldl_insert pairs
  · have hsame : Dict.ofPairs pairs' = Dict.ofPairs pairs :=
      Dict.ext (Entries.ofPairs_perm hperm hnodup).symm
    exact ⟨hsame, fun d eventType => by rw [hsame]⟩
  · obtain ⟨-, htype, -, hprops⟩ := make_eq_ok hmake
    refine ⟨fun times => ?_, fun other time' hother =>
      ⟨_, exists_make_of_make hmake hother time', fun times => id_foldl_setTime times _⟩⟩
    rw [id_foldl_setTime, id, htype, hprops]

/-- Pairs of three keys that do not ascend. -/
def shuffled : List (String × PropValue) :=
  [("user", .text "alice"), ("dt", .number (.ofInt 5)), ("host", .text "web1")]

theorem id_of_insertions_shuffled :
    shuffled.Perm shuffled.reverse ∧ (shuffled.map Prod.fst).Nodup ∧
      Dict.ofPairs shuffled.reverse = Dict.ofPairs shuffled ∧
      eventId .sample "click" (.ofPairs shuffled) = Dataspace.sample.name ++ "/" ++ "click" ++ "_" ++
        Sha256.hash "dt=5&host=web1&user=alice&" ∧
      ∃ e e', make " Default" (.ofInt 1) "click" (.ofPairs shuffled) leapSecond = .ok e ∧
        make " Default" (.ofInt 42) "click" (.ofPairs shuffled) leapSecond = .ok e' ∧
        ([leapSecond].foldl setTime e').id = e.id := by
  have hperm : shuffled.Perm shuffled.reverse := shuffled.reverse_perm.symm
  have hnodup : (shuffled.map Prod.fst).Nodup := by decide
  obtain ⟨-, hsame, hprops⟩ := id_of_insertions shuffled
  obtain ⟨hid, hevents⟩ := hprops (.ofPairs shuffled) "click"
  have htext : String.ofList (Properties.entriesText (Dict.ofPairs shuffled).entries) =
      "dt=5&host=web1&user=alice&" := by decide +kernel
  obtain ⟨e, he⟩ : ∃ e, make " Default" (.ofInt 1) "click" (.ofPairs shuffled) leapSecond = .ok e :=
    ⟨⟨.sample, "click", .ofInt 1, .ofPairs shuffled, leapSecond⟩,
      make_eq_ok_iff.mpr ⟨.sample, by decide +kernel, by decide, by decide, by decide, rfl⟩⟩
  obtain ⟨e', he', htimes⟩ := (hevents _ _ _ e he).2 (.ofInt 42) leapSecond (by decide)
  refine ⟨hperm, hnodup, (hsame _ hperm hnodup).1, ?_, e, e', he, he', htimes [leapSecond]⟩
  rw [hid .sample (by decide) _ (Dict.ofPairs shuffled).ascending fun _ => rfl, htext]

end Event

end Rollup
