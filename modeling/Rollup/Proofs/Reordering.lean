import Mathlib.Data.List.Perm.Basic
import Rollup.Proofs.Assembly

/-!
# The order of breakdowns

Where every breakdown has a tree and no two trees have one name, all trees are
kept, so another order of the breakdowns gives the same trees in another order.
The totals go by the fields that trees start with and by the names that are
taken, neither of which has to do with order, so they are the same totals. What
is sent is an object under the names of roots and totals. No name stands in it
twice, and such an object is the same in whatever order it is put together.
-/

namespace Rollup.RequestDraft

open Rollup.Aggregation

/-- Two requests that are the same to whom they are sent: all that is in the one is in the other,
and the bodies are equal. The trees of the first are given. -/
structure SameSearch (trees : List Aggregation) (r r' : SearchRequest) : Prop where
  index_eq : r.index = r'.index
  size_eq : r.size = r'.size
  filter_eq : r.filter = r'.filter
  toJson_eq : r.toJson = r'.toJson
  /-- The second has the same trees and the same totals, each in an order of their own. -/
  aggregations : ∃ trees', trees.Perm trees' ∧
    (missingTotals trees).value.Perm (missingTotals trees').value ∧
    r.aggregations = trees ++ (missingTotals trees).value ∧
    r'.aggregations = trees' ++ (missingTotals trees').value

/-- The request of a draft in which every tree is kept. -/
theorem prepare_of_nodup {d : RequestDraft} {trees : List Aggregation}
    (hwindow : d.window.start.before d.window.stop = true)
    (htrees : List.Forall₂ (fun text t => textTree d.options text = .ok t)
      (d.breakdowns.filterMap entryText?) trees)
    (hnames : (trees.map name).Nodup) :
    d.prepare.value = .ok (d.complete d.filter.value trees).value := by
  have hapart : (([] ++ trees).map name).Nodup := hnames
  rw [value_prepare, if_pos hwindow, value_roots, Except.mapM_eq_ok.mpr htrees]
  simp only [foldl_keepNew hapart]
  rfl

theorem sameSearch_of_perm {d : RequestDraft} {trees trees' : List Aggregation}
    (filter : Filter) (h : trees.Perm trees') (hnames : (trees.map name).Nodup) :
    SameSearch trees (d.complete filter trees).value (d.complete filter trees').value := by
  have htotals := missingTotals_perm h
  have hrender : render (withTotals trees).value = render (withTotals trees').value :=
    render_perm (h.append htotals) (withTotals_names_nodup hnames)
  refine ⟨rfl, rfl, rfl, ?_, trees', h, htotals, rfl, rfl⟩
  show Json.ofMembers [_, _, ("aggs", render (withTotals trees).value)] = _
  rw [hrender]
  rfl

/-- Breakdowns that all have a tree, of a name of its own, give the same search in any order. Where
the window holds no time, they are refused for it in any order. -/
theorem prepare_of_perm {d : RequestDraft} {entries : List (Option String)}
    {trees : List Aggregation} (hperm : d.breakdowns.Perm entries)
    (htrees : List.Forall₂ (fun text t => ∃ b, Breakdown.parse text = .ok b ∧ Built d.options b t)
      (d.breakdowns.filterMap entryText?) trees)
    (hnames : (trees.map name).Nodup) :
    (d.window.start.before d.window.stop = true →
      ∃ r r', d.prepare.value = .ok r ∧ { d with breakdowns := entries }.prepare.value = .ok r' ∧
        SameSearch trees r r') ∧
    (d.window.start.before d.window.stop = false →
      d.prepare.value = .error (.invalidTimeRange d.window.start d.window.stop) ∧
        { d with breakdowns := entries }.prepare.value =
          .error (.invalidTimeRange d.window.start d.window.stop)) := by
  simp only [← textTree_eq_ok] at htrees
  refine ⟨fun hwindow => ?_, fun hwindow => ⟨?_, ?_⟩⟩
  · have htexts : (entries.filterMap entryText?).Perm (d.breakdowns.filterMap entryText?) :=
      hperm.symm.filterMap entryText?
    obtain ⟨trees', htrees', hperm'⟩ := List.perm_comp_forall₂ htexts htrees
    have hnames' : (trees'.map name).Nodup := (hperm'.map name).nodup_iff.mpr hnames
    exact ⟨_, _, prepare_of_nodup hwindow htrees hnames,
      prepare_of_nodup (d := { d with breakdowns := entries }) hwindow htrees' hnames',
      sameSearch_of_perm d.filter.value hperm'.symm hnames⟩
  · rw [value_prepare, hwindow, if_neg Bool.false_ne_true]
  · rw [value_prepare]
    show (if d.window.start.before d.window.stop then _ else _) = _
    rw [hwindow, if_neg Bool.false_ne_true]

/-- Two breakdowns, one with a report, and a missing entry between them. -/
def twoBreakdowns : RequestDraft :=
  { spellingEachOther with
    breakdowns := [some "tag/time", none, some "host/tag \x7bdt: avg\x7d"] }

/-- The same entries in another order. -/
def twoSwapped : RequestDraft :=
  { twoBreakdowns with breakdowns := [some "host/tag \x7bdt: avg\x7d", some "tag/time", none] }

theorem prepare_twoSwapped :
    ∃ r r', twoBreakdowns.prepare.value = .ok r ∧ twoSwapped.prepare.value = .ok r' ∧
      r.aggregations.map name = ["by_tag_time", "by_host_tag", "tag", "host"] ∧
      r'.aggregations.map name = ["by_host_tag", "by_tag_time", "host", "tag"] ∧
      r.toJson = r'.toJson := by
  have htexts : twoBreakdowns.breakdowns.filterMap entryText? =
      ["tag/time", "host/tag \x7bdt: avg\x7d"] := by decide +kernel
  have htrees : List.Forall₂
      (fun text t => ∃ b, Breakdown.parse text = .ok b ∧ Built twoBreakdowns.options b t)
      (twoBreakdowns.breakdowns.filterMap entryText?)
      [chain twoBreakdowns.options [] "tag" ["time"],
        chain twoBreakdowns.options [nonZeroStats "dt"] "host" ["tag"]] := by
    rw [htexts]
    exact .cons ⟨⟨["tag", "time"], none⟩, by decide +kernel, tree_eq_ok.mp rfl⟩ <|
      .cons ⟨⟨["host", "tag"], some (.ofPairs [("dt", "avg")])⟩, by decide +kernel,
        tree_eq_ok.mp rfl⟩ .nil
  have hperm : twoBreakdowns.breakdowns.Perm twoSwapped.breakdowns := by decide
  obtain ⟨r, r', hr, hr', hsame⟩ :=
    (prepare_of_perm hperm htrees (by decide +kernel)).1 (by decide)
  have hnames : (twoBreakdowns.prepare.value.toOption.map fun r => r.aggregations.map name) =
      some ["by_tag_time", "by_host_tag", "tag", "host"] := by decide +kernel
  have hnames' : (twoSwapped.prepare.value.toOption.map fun r => r.aggregations.map name) =
      some ["by_host_tag", "by_tag_time", "host", "tag"] := by decide +kernel
  rw [hr] at hnames
  rw [show twoSwapped.prepare.value = .ok r' from hr'] at hnames'
  exact ⟨r, r', hr, hr', Option.some.inj hnames, Option.some.inj hnames', hsame.toJson_eq⟩

end Rollup.RequestDraft
