import Rollup.Proofs.Inquiry.Compiled
import Rollup.Proofs.Interval

/-!
# Settings that are left out

What an inquiry gets for a setting that it leaves out is what it would get if it
gave the default of the configuration. So defaults may be spelled out, one or
several of them, and nothing comes out differently. That goes for errors as well:
a default that cannot be used fails as the same text does in an inquiry.

For five of the six settings this is how resolving works. An interval is a text
in an inquiry and a number in the configuration, so there it needs that a written
interval is read back.

Each inquiry is given a new name when it is resolved. The name goes into the
records, and the request that is compiled does not depend on it.
-/

namespace Rollup

/-- A setting that an inquiry may leave to the configuration. -/
inductive Setting
  | dataspace
  | query
  | breakdowns
  | size
  | examples
  | interval
deriving DecidableEq

namespace RequestDraft

/-- Where the records of a draft are filed has no part in its outcome. -/
theorem value_prepare_logContext (d : RequestDraft) (ctx : LogContext) :
    { d with logContext := ctx }.prepare.value = d.prepare.value := by
  have hroots : (roots d.options ctx [] d.breakdowns).value =
      (roots d.options d.logContext [] d.breakdowns).value := by
    rw [value_roots, value_roots]
  rw [value_prepare, value_prepare d, ← hroots]
  rfl

end RequestDraft

namespace Inquiry

open Rollup.Calendar

variable {q : Inquiry} {config : Config} {now : Instant} {requestId : String}

/-- An inquiry that gives a setting: the one that it gives already, or else the default. -/
def spellOut (config : Config) (q : Inquiry) : Setting → Inquiry
  | .dataspace => { q with dataspace := some (q.dataspace.getD config.dataspace) }
  | .query => { q with query := some (q.query.getD "") }
  | .breakdowns => { q with breakdowns := some (q.breakdowns.getD (config.breakdowns.map some)) }
  | .size => { q with size := some (q.size.getD config.resultCeiling) }
  | .examples => { q with examples := some (q.examples.getD config.exampleCeiling) }
  | .interval => { q with interval := some (q.interval.getD config.interval.render) }

/-! ## One setting -/

theorem resolveInterval_spellOut :
    (q.spellOut config .interval).resolveInterval config = q.resolveInterval config := by
  rw [resolveInterval, resolveInterval, spellOut]
  cases q.interval with
  | none => simp only [Option.getD_none, readInterval, Interval.ofText?_render]
  | some given => rfl

/-- Spelling out one default makes no difference. -/
theorem resolve_spellOut (setting : Setting) :
    (q.spellOut config setting).resolve config now requestId =
      q.resolve config now requestId := by
  cases setting with
  | interval =>
      rw [resolve, resolve, resolveInterval_spellOut]
      simp only [spellOut, resolveDataspace, resolveStop, resolveStart]
  | _ =>
      simp only [resolve, spellOut, resolveDataspace, resolveStop, resolveStart, resolveInterval,
        Option.getD_some]

/-! ## The name of a request -/

theorem resolve_requestId (other : String) :
    q.resolve config now other =
      (q.resolve config now requestId).map fun r => { r with requestId := other } := by
  rw [resolve, resolve]
  cases q.resolveDataspace config with
  | error fault => rfl
  | ok dataspace =>
      cases q.resolveStop now with
      | error fault => rfl
      | ok stop =>
          simp only [bind, Except.bind]
          cases q.resolveStart stop with
          | error fault => rfl
          | ok start => cases q.resolveInterval config <;> rfl

theorem value_compile_requestId (r : ResolvedInquiry) (other : String) :
    ({ r with requestId := other }.compile config).value = (r.compile config).value :=
  RequestDraft.value_prepare_logContext (r.draft config) _

/-! ## Any settings -/

theorem resolve_foldl_spellOut (settings : List Setting) :
    (settings.foldl (spellOut config) q).resolve config now requestId =
      q.resolve config now requestId := by
  induction settings generalizing q with
  | nil => rfl
  | cons setting rest ih => rw [List.foldl_cons, ih, resolve_spellOut]

/-- Whichever defaults an inquiry spells out, the outcome is the one that it has without them: the
same error, or the same inquiry up to the name it is given, and then the same request or the same
refusal of one. -/
theorem resolve_of_defaults (q : Inquiry) (config : Config) (now : Instant)
    (settings : List Setting) (requestId other : String) :
    (settings.foldl (spellOut config) q).resolve config now other =
        (q.resolve config now requestId).map (fun r => { r with requestId := other }) ∧
      ((settings.foldl (spellOut config) q).resolve config now other).map
          (fun r => (r.compile config).value) =
        (q.resolve config now requestId).map fun r => (r.compile config).value := by
  have hresolve : (settings.foldl (spellOut config) q).resolve config now other =
      (q.resolve config now requestId).map fun r => { r with requestId := other } := by
    rw [resolve_foldl_spellOut, resolve_requestId]
  refine ⟨hresolve, ?_⟩
  rw [hresolve]
  cases q.resolve config now requestId with
  | error fault => rfl
  | ok r => exact congrArg Except.ok (value_compile_requestId r other)

/-- All six defaults. -/
example :
    [Setting.dataspace, .query, .breakdowns, .size, .examples, .interval].foldl
        (spellOut .default) empty =
      { empty with
        dataspace := some "default"
        query := some ""
        breakdowns := some [some "evt/time", some "evt/host", some "publisher", some "host",
          some "domain", some "variant"]
        size := some 10
        examples := some 10
        interval := some "1d" } := by decide +kernel

end Inquiry

end Rollup
