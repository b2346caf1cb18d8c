import Rollup.Dataspace
import Rollup.Proofs.Casing

/-!
# The dataspace that a text names

A text names a dataspace by its normal form, which is the text trimmed and in
lowercase. Neither the trim nor lowercase brings or takes a slash, and only a
blank text is left empty by them. So whether a text is accepted can be seen from
the text as it is, and the dataspace is determined by its name.

Lowercase settles at once and leaves the ends of a text visible, so a name has
all that makes a normal form, and the normal form of a normal form is itself.
The name of a dataspace therefore names that dataspace, with blanks around it or
without.
-/

namespace Rollup.Dataspace

theorem eq_of_name {d₁ d₂ : Dataspace} (h : d₁.name = d₂.name) : d₁ = d₂ := by
  cases d₁
  cases d₂
  cases h
  rfl

theorem normalize_trimString (raw : String) : normalize (Text.trimString raw) = normalize raw := by
  rw [normalize, Text.trimString, String.toList_ofList, Text.trim_trim, normalize]

theorem normalize_eq_empty {raw : String} : normalize raw = "" ↔ Text.trimString raw = "" := by
  rw [normalize, Text.trimString, String.ofList_eq_empty_iff, String.ofList_eq_empty_iff,
    Text.lowercase_eq_nil]

theorem slash_mem_normalize {raw : String} :
    '/' ∈ (normalize raw).toList ↔ '/' ∈ raw.toList := by
  rw [normalize, String.toList_ofList, Text.mem_lowercase (by decide) (by decide),
    Text.mem_trim (by decide)]

/-- A text is accepted as the dataspace that has the normal form of the text as its name. -/
theorem ofText_eq_ok {raw : String} {d : Dataspace} :
    ofText raw = .ok d ↔ d.name = normalize raw := by
  constructor
  · intro h
    rw [ofText] at h
    split at h
    · cases h
    split at h
    · cases h
    · cases h
      rfl
  · intro h
    obtain ⟨name, hne, hslash⟩ := d
    change name = normalize raw at h
    subst h
    rw [ofText, dif_neg hne, dif_neg hslash]

/-- A text names a dataspace if it is not blank and has no slash. -/
theorem exists_ofText {raw : String} (hne : Text.trimString raw ≠ "") (hslash : '/' ∉ raw.toList) :
    ∃ d, ofText raw = .ok d := by
  have hname : normalize raw ≠ "" := mt normalize_eq_empty.mp hne
  have hplain : '/' ∉ (normalize raw).toList := mt slash_mem_normalize.mp hslash
  exact ⟨⟨normalize raw, hname, hplain⟩, ofText_eq_ok.mpr rfl⟩

theorem ofText_of_slash {raw : String} (h : '/' ∈ raw.toList) :
    ofText raw = .error (.invalidDataspace (normalize raw)) := by
  have hslash := slash_mem_normalize.mpr h
  rw [ofText, dif_neg (Text.ne_empty_of_mem hslash), dif_pos hslash]

/-! ## Normal forms -/

/-- A name that is its own normal form, and that a dataspace may have. -/
structure IsNormal (name : String) : Prop where
  ne_empty : name ≠ ""
  no_slash : '/' ∉ name.toList
  visible_first : ∀ c ∈ name.toList.head?, Text.isBlank c = false
  visible_last : ∀ c ∈ name.toList.getLast?, Text.isBlank c = false
  lowercase : Text.lowercase name.toList = name.toList

variable {raw : String} {d : Dataspace}

theorem toList_normalize (raw : String) :
    (normalize raw).toList = Text.lowercase (Text.trim raw.toList) := by
  rw [normalize, String.toList_ofList]

theorem isNormal_of_ofText (h : ofText raw = .ok d) : IsNormal d.name := by
  have hname : d.name.toList = Text.lowercase (Text.trim raw.toList) := by
    rw [ofText_eq_ok.mp h, toList_normalize]
  have htrim : Text.trim d.name.toList = d.name.toList := by
    rw [hname]
    exact Text.trim_lowercase (Text.trim_trim _)
  refine ⟨d.name_ne, d.slash_not_mem, fun c hc => ?_, fun c hc => ?_, ?_⟩
  · exact Text.isBlank_head_trim (htrim.symm ▸ hc)
  · exact Text.isBlank_getLast_trim (htrim.symm ▸ hc)
  · rw [hname, Text.lowercase_lowercase]

theorem IsNormal.normalize_around {name : String} (h : IsNormal name) {w w' : String}
    (hw : Text.allBlank w.toList = true) (hw' : Text.allBlank w'.toList = true) :
    normalize (w ++ name ++ w') = name := by
  apply String.toList_inj.mp
  rw [toList_normalize, String.toList_append, String.toList_append, Text.trim_append_append hw hw',
    Text.trim_of_ends h.visible_first h.visible_last, h.lowercase]

/-! ## Texts that are refused -/

theorem ofText_eq_empty_iff :
    ofText raw = .error .emptyDataspace ↔ Text.allBlank raw.toList = true := by
  rw [← Text.trimString_eq_empty_iff, ← normalize_eq_empty, ofText]
  split
  · next hempty => exact iff_of_true rfl hempty
  · next hname =>
      refine iff_of_false (fun h => ?_) hname
      split at h <;> cases h

theorem ofText_eq_invalid_iff :
    (∃ name, ofText raw = .error (.invalidDataspace name)) ↔
      Text.allBlank raw.toList = false ∧ '/' ∈ raw.toList := by
  rw [← Bool.not_eq_true, ← ofText_eq_empty_iff]
  constructor
  · rintro ⟨name, h⟩
    have hvisible : ofText raw ≠ .error .emptyDataspace := by simp [h]
    refine ⟨hvisible, ?_⟩
    by_contra hslash
    rw [Ne, ofText_eq_empty_iff, ← Text.trimString_eq_empty_iff] at hvisible
    obtain ⟨d, hd⟩ := exists_ofText hvisible hslash
    cases h.symm.trans hd
  · rintro ⟨-, hslash⟩
    exact ⟨_, ofText_of_slash hslash⟩

theorem indexName_inj {d₁ d₂ : Dataspace} {stem : String} :
    d₁.indexName stem = d₂.indexName stem ↔ d₁ = d₂ := by
  refine ⟨fun h => eq_of_name ?_, fun h => by rw [h]⟩
  exact String.append_right_inj stem |>.mp h

/-- The name of a dataspace that was read is a normal form, and read again, with any blanks around
it, it gives the same dataspace. A text is refused as empty if it is blank, and as invalid if it is
not and has a slash. The others have one index if and only if they have one normal form. -/
theorem ofText_normal_form :
    (∀ (raw : String) (d : Dataspace), ofText raw = .ok d →
      IsNormal d.name ∧
        ∀ w w' : String, Text.allBlank w.toList = true → Text.allBlank w'.toList = true →
          ofText (w ++ d.name ++ w') = .ok d) ∧
    (∀ raw : String,
      (ofText raw = .error .emptyDataspace ↔ Text.allBlank raw.toList = true) ∧
      ((∃ name, ofText raw = .error (.invalidDataspace name)) ↔
        Text.allBlank raw.toList = false ∧ '/' ∈ raw.toList)) ∧
    ∀ (raw₁ raw₂ : String) (d₁ d₂ : Dataspace), ofText raw₁ = .ok d₁ → ofText raw₂ = .ok d₂ →
      ∀ stem : String, (d₁.indexName stem = d₂.indexName stem ↔ d₁ = d₂) ∧
        (d₁ = d₂ ↔ normalize raw₁ = normalize raw₂) := by
  refine ⟨fun raw d h => ?_, fun raw => ⟨ofText_eq_empty_iff, ofText_eq_invalid_iff⟩,
    fun raw₁ raw₂ d₁ d₂ h₁ h₂ stem => ⟨indexName_inj, ?_⟩⟩
  · have hnormal := isNormal_of_ofText h
    exact ⟨hnormal, fun w w' hw hw' => ofText_eq_ok.mpr (hnormal.normalize_around hw hw').symm⟩
  · rw [← ofText_eq_ok.mp h₁, ← ofText_eq_ok.mp h₂]
    exact ⟨congrArg name, eq_of_name⟩

/-- Two characters from a dotted capital I, and a sigma in its final form. -/
def dotted : Dataspace := ⟨"i\u0307ς", by decide, by decide⟩

theorem ofText_normal_form_dotted :
    ofText " İΣ\n" = .ok dotted ∧ ofText "I\u0307Σ" = .ok dotted ∧ IsNormal dotted.name ∧
      ofText ("\t" ++ dotted.name ++ "\u3000") = .ok dotted ∧
      normalize " İΣ\n" = normalize "I\u0307Σ" := by
  have hread : ofText " İΣ\n" = .ok dotted := ofText_eq_ok.mpr (by decide +kernel)
  have hread' : ofText "I\u0307Σ" = .ok dotted := ofText_eq_ok.mpr (by decide +kernel)
  obtain ⟨hnormal, haround⟩ := ofText_normal_form.1 _ _ hread
  obtain ⟨-, hsame⟩ := ofText_normal_form.2.2 _ _ _ _ hread hread' "datalog."
  exact ⟨hread, hread', hnormal, haround "\t" "\u3000" (by decide) (by decide), hsame.mp rfl⟩

end Rollup.Dataspace
