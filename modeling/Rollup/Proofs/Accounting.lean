import Rollup.Proofs.Totals

/-!
# Nothing is left out without a record

What goes into an assembly is a list of entries, and what comes out are trees
and totals. Sifting puts each entry on one of two sides, the trees or the
records about what is left out, so the two sides add up to the entries. It is
the same with totals: the fields that trees start with are split into those that
have a total and those that are recorded. The split is by the names of the trees,
and a tree is named `by_` and its fields, so only a field that starts like
that can lose its total.
-/

namespace Rollup.RequestDraft

open Rollup.Aggregation

/-- The account of a request: the trees and totals in it, and the records that make up for what is
not. -/
structure Account (d : RequestDraft) (r : SearchRequest) (trees totals : List Aggregation)
    (skips : List LogRecord) : Prop where
  /-- The request holds the trees, and then the totals. -/
  aggregations_eq : r.aggregations = trees ++ totals
  /-- Entry by entry, the trees are those whose name is new, and every other entry has a record. -/
  sifted : Sifted d.options d.logContext [] d.breakdowns trees skips
  /-- These are all records about entries, in their order. -/
  skips_eq : LogRecord.about .skip d.prepare.records = skips
  /-- An entry is a tree or a record. -/
  entries_length : d.breakdowns.length =
    trees.length + (LogRecord.about .skip d.prepare.records).length
  /-- The totals are those of the fields that trees start with, but for names of trees. -/
  totals_eq : totals = ((leadingFields trees).filter (· ∉ trees.map name)).map total
  /-- A field that trees start with is a total or a record. -/
  fields_length : (leadingFields trees).length =
    totals.length + (LogRecord.about .untotalled d.prepare.records).length
  /-- Only names of trees are without a total, and they start with `by_`. -/
  by_prefix : ∀ field, .totalSkipped field ∈ d.prepare.records →
    field ∈ trees.map name ∧ "by_".toList <+: field.toList
  /-- One record sums the request up, with the numbers of what is in it. -/
  prepared_eq : LogRecord.about .prepared d.prepare.records =
    [.searchPrepared d.logContext r.index r.filter.clauses.length r.aggregations.length
      totals.length]

theorem length_totalsOf (names fields : List String) :
    fields.length = (totalsOf names fields).value.length +
      (totalsOf names fields).records.length := by
  rw [totalsOf, List.length_map, List.length_map,
    List.length_eq_length_filter_add (f := (· ∉ names))]
  simp

/-- A request that is prepared has an account. -/
theorem exists_account_of_prepare {d : RequestDraft} {r : SearchRequest}
    (h : d.prepare.value = .ok r) : ∃ trees totals skips, Account d r trees totals skips := by
  obtain ⟨hwindow, trees, htrees, rfl⟩ := prepare_eq_ok h
  obtain ⟨skips, hsifted, hskips, huntotalled, hprepared⟩ := about_prepare hwindow htrees
  have hmissing := missingTotals_eq trees
  refine ⟨trees, (missingTotals trees).value, skips, rfl, hsifted, hskips, ?_, ?_, ?_, ?_,
    hprepared⟩
  · rw [hskips]
    exact hsifted.length_eq
  · rw [hmissing]
    rfl
  · rw [huntotalled, hmissing]
    exact length_totalsOf _ _
  · intro field hrecord
    have hmem : .totalSkipped field ∈ LogRecord.about .untotalled d.prepare.records :=
      List.mem_filter.mpr ⟨hrecord, decide_eq_true rfl⟩
    rw [huntotalled, hmissing] at hmem
    obtain ⟨taken, htaken, heq⟩ := List.mem_map.mp hmem
    cases heq
    have hname := of_decide_eq_true (List.mem_filter.mp htaken).2
    obtain ⟨root, hroot, rfl⟩ := List.mem_map.mp hname
    obtain ⟨fields, hfields⟩ := exists_chainName_of_roots htrees root hroot
    exact ⟨hname, hfields ▸ by_prefix_chainName fields⟩

/-- A draft with all that can be left out: a missing and a blank entry, two breakdowns of one name,
and a field named like the tree of another. -/
def leavingOut : RequestDraft :=
  { spellingEachOther with
    breakdowns := [some "x", none, some " by_x ", some "\t", some "x \x7bcount:avg\x7d", some "time"] }

theorem exists_account_leavingOut :
    ∃ r, leavingOut.prepare.value = .ok r ∧
      r.aggregations.map name = ["by_x", "by_by_x", "by_time", "x"] ∧
      (∃ trees totals skips, Account leavingOut r trees totals skips) ∧
      LogRecord.about .skip leavingOut.prepare.records =
        [.breakdownBlank leavingOut.logContext, .breakdownBlank leavingOut.logContext,
          .breakdownRepeated (leavingOut.logContext.withBreakdown "x \x7bcount:avg\x7d") "by_x"] ∧
      LogRecord.about .untotalled leavingOut.prepare.records = [.totalSkipped "by_x"] := by
  have hnames : (leavingOut.prepare.value.toOption.map fun r => r.aggregations.map name) =
      some ["by_x", "by_by_x", "by_time", "x"] := by decide +kernel
  obtain ⟨r, hr, hroots⟩ := exists_of_map_prepare hnames
  exact ⟨r, hr, hroots, exists_account_of_prepare hr, by decide +kernel, by decide +kernel⟩

end Rollup.RequestDraft
