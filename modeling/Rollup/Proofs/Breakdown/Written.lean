import Rollup.Proofs.Breakdown.Grammar
import Rollup.Proofs.Json.WrittenTexts

/-!
# Breakdowns that are written read back

A breakdown is written as its fields with slashes between them and, if it has a
report, the compact JSON of the operations behind them. Reading gives the
breakdown back, whatever the operations hold: a brace in a string comes after
the brace that opens the report, so the cut at the first brace is the right
one, and the written report is JSON as it stands, so no quotes are ever put in.
-/

namespace Rollup.Breakdown

/-- A breakdown as a text, with `gap` in front of the report. -/
def write (b : Breakdown) (gap : List Char) : String :=
  String.ofList <| ['/'].intercalate (b.fields.map String.toList) ++
    match b.operations with
    | none => []
    | some operations => gap ++ Json.write (.object (Json.textMembers operations.entries))

/-! ## The chain -/

theorem fieldText_append {field : String} {w : List Char} (hname : isFieldName field.toList = true)
    (hw : Text.allBlank w = true) : FieldText (field.toList ++ w) field :=
  ⟨hname, [], w, rfl, hw, rfl⟩

/-- Names with slashes between them are a chain, also with blanks behind the last. -/
theorem chainText_intercalate {fields : List String} {w : List Char} (hne : fields ≠ [])
    (hnames : ∀ field ∈ fields, isFieldName field.toList = true) (hw : Text.allBlank w = true) :
    ChainText (['/'].intercalate (fields.map String.toList) ++ w) fields := by
  induction fields with
  | nil => exact absurd rfl hne
  | cons field rest ih =>
      have hname := hnames field List.mem_cons_self
      cases rest with
      | nil =>
          rw [List.map_singleton, List.intercalate_singleton]
          exact .last (fieldText_append hname hw)
      | cons next rest =>
          have hrest := ih (List.cons_ne_nil _ _)
            fun other hother => hnames other (List.mem_cons_of_mem _ hother)
          have hfirst := fieldText_append hname Text.allBlank_nil
          rw [List.append_nil] at hfirst
          have hmore := ChainText.more hfirst hrest
          simpa [List.intercalate_cons_cons] using hmore

/-! ## The report -/

theorem readStrictReport_write (operations : Dict String) :
    readStrictReport (Json.write (.object (Json.textMembers operations.entries))) =
      .ok operations := by
  have hread := Json.readWhole_readMap_append .nil .nil
    (Json.objectText_write operations.entries)
  rw [List.nil_append, List.append_nil] at hread
  rw [readStrictReport, hread]
  exact congrArg Except.ok (Dict.ext (Entries.ofPairs_of_ascending operations.ascending))

/-- A report that is JSON as it stands is read as it stands. -/
theorem readReport_of_strict {report : List Char} {operations : Dict String}
    (h : readStrictReport report = .ok operations) : readReport report = .ok operations := by
  rw [readReport, h]

/-- Writing a breakdown and reading the text gives the breakdown back: the same fields and the same
operations, or none, with any blanks or none in front of the report. -/
theorem parse_write {b : Breakdown} {gap : List Char} (hfields : b.fields ≠ [])
    (hnames : ∀ field ∈ b.fields, isFieldName field.toList = true)
    (hgap : Text.allBlank gap = true) : parse (b.write gap) = .ok b := by
  obtain ⟨fields, operations⟩ := b
  cases operations with
  | none =>
      have hchain := chainText_intercalate hfields hnames Text.allBlank_nil
      refine (parse_eq_ok_none _ fields).mpr ?_
      rw [write, String.toList_ofList]
      exact hchain
  | some operations =>
      have hchain := chainText_intercalate hfields hnames hgap
      have hread := readReport_of_strict (readStrictReport_write operations)
      refine parse_of_append ?_ hchain (by rw [Json.write]; rfl) ?_ hread
      · rw [write, String.toList_ofList, List.append_assoc]
      · rw [Json.write, ← List.cons_append, List.getLast?_concat]

/-- Three fields, and operations with quotes, backslashes, braces, controls, commas and colons in
them. -/
def awkward : Breakdown :=
  ⟨["tag", "props.k@x:1-2", "time"],
    some (.ofPairs [("", "\x7da\x7b"), ("c:\"o\\u,", "\x01\n\x7f/")])⟩

theorem parse_write_awkward :
    awkward.fields ≠ [] ∧ (∀ field ∈ awkward.fields, isFieldName field.toList = true) ∧
      parse (awkward.write []) = .ok awkward ∧ parse (awkward.write [' ']) = .ok awkward := by
  have hnames : ∀ field ∈ awkward.fields, isFieldName field.toList = true := by decide
  exact ⟨by decide, hnames, parse_write (by decide) hnames (by decide),
    parse_write (by decide) hnames (by decide)⟩

end Rollup.Breakdown
