import Rollup.Proofs.Json.Path
import Rollup.Proofs.Totals
import Rollup.SearchResults

/-!
# What a payload keeps of a response

The payload is the aggregations of the response with the examples put in under
their own key. Every other entry stays what it was. A root of the name
`examples` does not stay, and a request has one exactly if a breakdown starts
with the field `examples`: the root is the total of that field.
-/

namespace Rollup

/-! ## The parts of a response -/

/-- What stands in the response to a request: an entry for each root among the aggregations, and the
hits. There may be more. -/
structure SearchRequest.Answer (r : SearchRequest) (response : Json) (aggregations : Dict Json)
    (hits : List Json) : Prop where
  sections : ∃ members inner, response = .object members ∧
    Entries.get? "aggregations" members = some (.object aggregations.entries) ∧
    Entries.get? "hits" members = some (.object inner) ∧
    Entries.get? "hits" inner = some (.array hits)
  roots : ∀ a ∈ r.aggregations, (aggregations.get? a.name).isSome = true

namespace SearchRequest

variable {r : SearchRequest} {response : Json} {aggregations : Dict Json} {hits : List Json}

theorem Answer.at?_aggregations (h : r.Answer response aggregations hits) :
    response.at? "aggregations" = some (.object aggregations.entries) := by
  obtain ⟨members, -, rfl, hfound, -, -⟩ := h.sections
  rw [Json.at?_key (by decide) (by decide), hfound]

theorem Answer.at?_hits (h : r.Answer response aggregations hits) :
    response.at? "hits.hits" = some (.array hits) := by
  obtain ⟨members, inner, rfl, -, houter, hinner⟩ := h.sections
  have hcut : Text.splitOn (· = '.') "hits.hits".toList = ["hits".toList, "hits".toList] := by
    decide
  rw [Json.at?_eq_descend? (by decide) hcut, Json.descend?_cons (by rw [Json.child?_object, houter]),
    Json.descend?_cons (by rw [Json.child?_object, hinner]), Json.descend?_nil]

theorem Answer.ofResponse_eq (h : r.Answer response aggregations hits) :
    SearchResults.ofResponse response = ⟨aggregations, hits⟩ := by
  rw [SearchResults.ofResponse, h.at?_aggregations, h.at?_hits]
  exact congrArg (SearchResults.mk · hits)
    (Dict.ext (Entries.ofPairs_of_ascending aggregations.ascending))

/-- The payload of a response has the entry of the response for each root, and the hits. -/
def Keeps (r : SearchRequest) (response : Json) (aggregations : Dict Json)
    (hits : List Json) : Prop :=
  ∃ payload : Dict Json, (SearchResults.ofResponse response).payload = .object payload.entries ∧
    payload.get? SearchResults.examplesKey = some (.array hits) ∧
    ∀ a ∈ r.aggregations, payload.get? a.name = aggregations.get? a.name

/-- Only the entry under the key of the examples is replaced. -/
theorem Answer.exists_payload (h : r.Answer response aggregations hits) :
    ∃ payload : Dict Json,
      (SearchResults.ofResponse response).payload = .object payload.entries ∧
      payload.get? SearchResults.examplesKey = some (.array hits) ∧
      ∀ key ≠ SearchResults.examplesKey, payload.get? key = aggregations.get? key := by
  refine ⟨aggregations.insert SearchResults.examplesKey (.array hits), ?_, ?_, ?_⟩
  · rw [h.ofResponse_eq]
    rfl
  · rw [Dict.get?_insert, if_pos rfl]
  · intro key hkey
    rw [Dict.get?_insert, if_neg hkey]

theorem Answer.keeps (h : r.Answer response aggregations hits)
    (hnames : SearchResults.examplesKey ∉ r.aggregations.map Aggregation.name) :
    r.Keeps response aggregations hits := by
  obtain ⟨payload, hpayload, hexamples, hothers⟩ := h.exists_payload
  refine ⟨payload, hpayload, hexamples, fun a ha => hothers a.name ?_⟩
  intro heq
  exact hnames (heq ▸ List.mem_map_of_mem ha)

/-- A root of the name of the examples is lost, unless its entry is the hits. -/
theorem not_keeps
    (hname : SearchResults.examplesKey ∈ r.aggregations.map Aggregation.name)
    (hentry : aggregations.get? SearchResults.examplesKey ≠ some (.array hits)) :
    ¬ r.Keeps response aggregations hits := by
  rintro ⟨payload, -, hexamples, hroots⟩
  obtain ⟨a, ha, heq⟩ := List.mem_map.mp hname
  have hroot := hroots a ha
  rw [heq, hexamples] at hroot
  exact hentry hroot.symm

/-- A response with nothing in it but the roots. -/
def plainResponse (aggregations : Dict Json) : Json :=
  .ofMembers [("aggregations", .object aggregations.entries),
    ("hits", .ofMembers [("hits", .array [])])]

theorem answer_plainResponse (h : ∀ a ∈ r.aggregations, (aggregations.get? a.name).isSome = true) :
    r.Answer (plainResponse aggregations) aggregations [] := by
  refine ⟨⟨_, Entries.ofPairs [("hits", .array [])], rfl, ?_, ?_, rfl⟩, h⟩
  · exact Entries.get?_ofPairs_of_mem (by simp) (by simp)
  · exact Entries.get?_ofPairs_of_mem (by simp) (by simp [Json.ofMembers])

/-- An entry for every root. -/
def someEntries (r : SearchRequest) : Dict Json :=
  .ofPairs (r.aggregations.map fun a => (a.name, .null))

theorem get?_someEntries (hnames : (r.aggregations.map Aggregation.name).Nodup) :
    ∀ a ∈ r.aggregations, r.someEntries.get? a.name = some .null := by
  intro a ha
  have hkeys : ((r.aggregations.map fun a => (a.name, Json.null)).map Prod.fst).Nodup := by
    rwa [List.map_map]
  exact Entries.get?_ofPairs_of_mem hkeys (List.mem_map_of_mem ha)

/-- A payload has the hits under `examples` and every other entry of the response as it is, so every
response to a request keeps all its roots exactly if no root divides by the field `examples`. -/
theorem keeps_iff_of_prepare {d : RequestDraft} (h : d.prepare.value = .ok r) :
    (∀ response aggregations hits, r.Answer response aggregations hits →
      ∃ payload : Dict Json,
        (SearchResults.ofResponse response).payload = .object payload.entries ∧
        payload.get? SearchResults.examplesKey = some (.array hits) ∧
        ∀ key ≠ SearchResults.examplesKey, payload.get? key = aggregations.get? key) ∧
    ((∀ response aggregations hits, r.Answer response aggregations hits →
        r.Keeps response aggregations hits) ↔
      ∀ a ∈ r.aggregations, a.termsField? ≠ some SearchResults.examplesKey) := by
  have hkey : ¬ "by_".toList <+: SearchResults.examplesKey.toList := by decide
  have hmem := RequestDraft.name_mem_iff h hkey
  refine ⟨fun response aggregations hits hanswer => hanswer.exists_payload,
    fun hall a ha hfield => ?_, fun hfields response aggregations hits hanswer => ?_⟩
  · have hentries := get?_someEntries (RequestDraft.prepare_separated h).1
    have hname := hmem.mpr ⟨a, ha, hfield⟩
    have hanswer : r.Answer (plainResponse r.someEntries) r.someEntries [] :=
      answer_plainResponse fun a ha => by rw [hentries a ha]; rfl
    refine not_keeps hname ?_ (hall _ _ _ hanswer)
    obtain ⟨b, hb, heq⟩ := List.mem_map.mp hname
    rw [← heq, hentries b hb]
    simp
  · refine hanswer.keeps fun hname => ?_
    obtain ⟨a, ha, hfield⟩ := hmem.mp hname
    exact hfields a ha hfield

theorem keeps_tag_host :
    ∃ r, (RequestDraft.oneDay ["tag/host", "host"]).prepare.value = .ok r ∧
      r.aggregations.map Aggregation.name = ["by_tag_host", "by_host", "tag", "host"] ∧
      ∀ response aggregations hits, r.Answer response aggregations hits →
        r.Keeps response aggregations hits := by
  have hroots : ((RequestDraft.oneDay ["tag/host", "host"]).prepare.value.toOption.map fun r =>
      (r.aggregations.map Aggregation.name, r.aggregations.map Aggregation.termsField?)) =
        some (["by_tag_host", "by_host", "tag", "host"],
          [some "tag", some "host", none, none]) := by
    decide +kernel
  obtain ⟨r, hr, heq⟩ := RequestDraft.exists_of_map_prepare hroots
  obtain ⟨hnames, hfields⟩ := Prod.mk.inj heq
  refine ⟨r, hr, hnames, (keeps_iff_of_prepare hr).2.mpr fun a ha hfield => ?_⟩
  have hmem := List.mem_map_of_mem (f := Aggregation.termsField?) ha
  rw [hfields, hfield] at hmem
  exact absurd hmem (by decide)

/-- The total of the field `examples` is lost: the examples take its place. -/
theorem payload_drops_examples_total :
    ∃ r aggregations, (RequestDraft.oneDay ["examples"]).prepare.value = .ok r ∧
      r.aggregations.map Aggregation.name = ["by_examples", "examples"] ∧
      r.Answer (plainResponse aggregations) aggregations [] ∧
      ¬ r.Keeps (plainResponse aggregations) aggregations [] := by
  have hroots : ((RequestDraft.oneDay ["examples"]).prepare.value.toOption.map fun r =>
      r.aggregations.map Aggregation.name) = some ["by_examples", "examples"] := by
    decide +kernel
  obtain ⟨r, hr, hnames⟩ := RequestDraft.exists_of_map_prepare hroots
  have hentries := get?_someEntries (RequestDraft.prepare_separated hr).1
  have hname : SearchResults.examplesKey ∈ r.aggregations.map Aggregation.name := by
    rw [hnames]
    decide
  obtain ⟨a, ha, heq⟩ := List.mem_map.mp hname
  refine ⟨r, r.someEntries, hr, hnames, answer_plainResponse ?_, not_keeps hname ?_⟩
  · exact fun a ha => by rw [hentries a ha]; rfl
  · rw [← heq, hentries a ha]
    simp

end SearchRequest

end Rollup
