import Rollup.Proofs.Dataspace
import Rollup.Proofs.Inquiry.Compiled

/-!
# Default requests under an environment

An inquiry that leaves everything out rests on the configuration, and so on the
environment. A number or an interval that cannot be read is passed over as if
the variable were not set, and what is read is always fit for use. Nothing else
can go wrong: the window of a month is not empty, and the six breakdowns are
fixed.

The dataspace is the exception. A value that is not blank is kept as it is, and
only where it is used it turns out whether it names a dataspace. Neither the trim
nor lowercase brings or takes a slash, so it does exactly if there is no slash in
it. With a slash, every inquiry that leaves out the dataspace is refused.
-/

namespace Rollup

namespace Config

variable {env : Environment}

/-! ## Values that are passed over -/

/-- Whether a variable sets anything with a value. For a number and an interval it has to be read as
one; a dataspace only must not be blank, and names of properties may be anything. -/
def accepts (key raw : String) : Bool :=
  let text := Text.trimString raw
  if key = dataspaceKey then text ≠ ""
  else if key = intervalKey then (Interval.ofText? text).isSome
  else if key = resultCeilingKey ∨ key = exampleCeilingKey then (Text.count? text.toList).isSome
  else true

/-- An environment without the values that set nothing. -/
def acceptedOnly (env : Environment) : Environment := fun key => (env key).filter (accepts key)

theorem value_setting {α : Type} (env : Environment) (key : String) (read : String → Option α)
    (default : α) :
    (setting env key read default).value =
      ((env key).bind fun raw => read (Text.trimString raw)).getD default := by
  rw [setting]
  cases env key with
  | none => rfl
  | some raw =>
      simp only [Option.bind_some]
      cases read (Text.trimString raw) <;> rfl

/-- A setting that is read needs only the values that are accepted. -/
theorem value_setting_acceptedOnly {α : Type} (env : Environment) (key : String)
    (read : String → Option α)
    (haccepts : ∀ raw, accepts key raw = (read (Text.trimString raw)).isSome) (default : α) :
    (setting (acceptedOnly env) key read default).value = (setting env key read default).value := by
  rw [value_setting, value_setting, acceptedOnly]
  cases env key with
  | none => rfl
  | some raw =>
      rw [Option.filter_some, haccepts]
      cases hvalue : read (Text.trimString raw) <;> simp [hvalue]

theorem dataspaceOf_acceptedOnly (env : Environment) :
    dataspaceOf (acceptedOnly env) = dataspaceOf env := by
  rw [dataspaceOf, dataspaceOf, acceptedOnly]
  cases env dataspaceKey with
  | none => rfl
  | some raw =>
      rw [Option.filter_some, accepts, if_pos rfl]
      by_cases hblank : Text.trimString raw = "" <;> simp [hblank]

theorem filterablePropsOf_acceptedOnly (env : Environment) :
    filterablePropsOf (acceptedOnly env) = filterablePropsOf env := by
  rw [filterablePropsOf, filterablePropsOf, acceptedOnly]
  cases env filterablePropsKey <;> rfl

theorem ofEnvironment_acceptedOnly (env : Environment) :
    (ofEnvironment (acceptedOnly env)).value = (ofEnvironment env).value := by
  rw [ofEnvironment, ofEnvironment, Config.mk.injEq]
  exact ⟨dataspaceOf_acceptedOnly env, rfl,
    value_setting_acceptedOnly env intervalKey Interval.ofText? (fun _ => rfl) _,
    value_setting_acceptedOnly env resultCeilingKey (fun s => Text.count? s.toList) (fun _ => rfl) _,
    value_setting_acceptedOnly env exampleCeilingKey (fun s => Text.count? s.toList)
      (fun _ => rfl) _,
    filterablePropsOf_acceptedOnly env, rfl⟩

/-! ## The dataspace -/

theorem exists_ofText_dataspaceOf (h : ∀ name ∈ env dataspaceKey, '/' ∉ name.toList) :
    ∃ d, Dataspace.ofText (dataspaceOf env) = .ok d := by
  have hdefault : ∃ d, Dataspace.ofText default.dataspace = .ok d :=
    Dataspace.exists_ofText (by decide +kernel) (by decide +kernel)
  rw [dataspaceOf]
  cases hset : env dataspaceKey with
  | none => exact hdefault
  | some name =>
      rw [Option.map_some]
      simp only []
      split
      · exact hdefault
      · next hne =>
          refine Dataspace.exists_ofText ?_ fun hslash => h name hset ?_
          · rwa [Text.trimString_trimString]
          · exact (Text.mem_trimString (by decide)).mp hslash

theorem ofText_dataspaceOf_of_slash {name : String} (hset : env dataspaceKey = some name)
    (hslash : '/' ∈ name.toList) :
    Dataspace.ofText (dataspaceOf env) = .error (.invalidDataspace (Dataspace.normalize name)) := by
  have hkept : '/' ∈ (Text.trimString name).toList := by
    rwa [Text.mem_trimString (by decide)]
  have hused : dataspaceOf env = Text.trimString name := by
    rw [dataspaceOf, hset]
    exact if_neg (Text.ne_empty_of_mem hkept)
  rw [hused, Dataspace.ofText_of_slash hkept, Dataspace.normalize_trimString]

end Config

namespace Inquiry

open Rollup.Calendar

variable {env : Config.Environment} {now : Instant}

/-! ## The inquiry that leaves everything out -/

theorem exists_parse_default : ∀ text ∈ empty.texts .default, ∃ b, Breakdown.parse text = .ok b := by
  have hall : (empty.texts .default).all (fun text => (Breakdown.parse text).isOk) = true := by
    decide +kernel
  intro text htext
  have hok := List.all_eq_true.mp hall text htext
  cases hparse : Breakdown.parse text with
  | ok b => exact ⟨b, rfl⟩
  | error cause => rw [hparse] at hok; cases hok

/-- With a dataspace and a month of time there is nothing wrong in it. -/
theorem sound_empty (hdataspace : ∃ d, Dataspace.ofText (Config.dataspaceOf env) = .ok d)
    (hnow : firstDay + 30 ≤ now.day) : empty.Sound (Config.ofEnvironment env).value now where
  dataspace := hdataspace
  stop := nofun
  start := nofun
  interval := nofun
  window := by
    -- Neither end is given, so the window is the month up to now.
    obtain ⟨w, hmonth⟩ := Window.exists_monthUpTo? hnow
    obtain rfl := Window.stop_of_monthUpTo? hmonth
    exact ⟨w, ⟨nofun, fun _ => rfl, nofun, fun _ => hmonth⟩, Window.before_of_monthUpTo? hmonth⟩
  breakdowns := exists_parse_default

/-- A slash in the dataspace of the environment refuses every inquiry that gives none itself. -/
theorem resolve_of_slash {q : Inquiry} (hleft : q.dataspace = none) {name : String}
    (hset : env Config.dataspaceKey = some name) (hslash : '/' ∈ name.toList) (requestId : String) :
    q.resolve (Config.ofEnvironment env).value now requestId =
      .error (.refused (.event (.invalidDataspace (Dataspace.normalize name)))) := by
  have hdataspace : q.resolveDataspace (Config.ofEnvironment env).value =
      .error (.refused (.event (.invalidDataspace (Dataspace.normalize name)))) := by
    have hused : (Config.ofEnvironment env).value.dataspace = Config.dataspaceOf env := rfl
    rw [resolveDataspace, hleft, Option.getD_none, hused,
      Config.ofText_dataspaceOf_of_slash hset hslash]
  rw [resolve, hdataspace]
  rfl

/-- Values that cannot be used leave the defaults as they are, and the inquiry that leaves everything
out is compiled under every environment, as long as there is a month of time behind it. Only a
dataspace with a slash in it is not passed over, and with it no inquiry is resolved that gives no
dataspace. -/
theorem compiled_of_environment (env : Config.Environment) (hnow : firstDay + 30 ≤ now.day)
    (requestId : String) :
    (Config.ofEnvironment (Config.acceptedOnly env)).value = (Config.ofEnvironment env).value ∧
      ((∀ name ∈ env Config.dataspaceKey, '/' ∉ name.toList) →
        ∃ resolved r,
          empty.resolve (Config.ofEnvironment env).value now requestId = .ok resolved ∧
            (resolved.compile (Config.ofEnvironment env).value).value = .ok r) ∧
      ∀ name ∈ env Config.dataspaceKey, '/' ∈ name.toList → ∀ q : Inquiry, q.dataspace = none →
        q.resolve (Config.ofEnvironment env).value now requestId =
          .error (.refused (.event (.invalidDataspace (Dataspace.normalize name)))) := by
  refine ⟨Config.ofEnvironment_acceptedOnly env, fun hplain => ?_,
    fun name hset hslash q hleft => resolve_of_slash hleft hset hslash requestId⟩
  have hsound := sound_empty (Config.exists_ofText_dataspaceOf hplain) hnow
  exact hsound.exists_compiled requestId

/-- An environment in which nothing can be read. -/
def unread : Config.Environment := fun key =>
  if key = Config.dataspaceKey then some "\t "
  else if key = Config.intervalKey then some "fortnight"
  else if key = Config.resultCeilingKey then some "-3"
  else if key = Config.exampleCeilingKey then some "1e3"
  else none

/-- An environment that sets only the dataspace. -/
def within (dataspace : String) : Config.Environment := fun key =>
  if key = Config.dataspaceKey then some dataspace else none

theorem compiled_of_environment_unread :
    (Config.ofEnvironment unread).value = .default ∧
      (∃ resolved r,
        empty.resolve (Config.ofEnvironment unread).value
            RequestDraft.spellingEachOther.window.stop "req-1" = .ok resolved ∧
          (resolved.compile (Config.ofEnvironment unread).value).value = .ok r) ∧
      empty.resolve (Config.ofEnvironment (within "EU/West")).value
          RequestDraft.spellingEachOther.window.stop "req-1" =
        .error (.refused (.event (.invalidDataspace (Dataspace.normalize "EU/West")))) := by
  have hnow : firstDay + 30 ≤ RequestDraft.spellingEachOther.window.stop.day := by decide
  have hdefault : (Config.ofEnvironment unread).value = .default := by decide +kernel
  have hplain : ∀ name ∈ unread Config.dataspaceKey, '/' ∉ name.toList := by decide +kernel
  obtain ⟨-, hcompiled, -⟩ := compiled_of_environment unread hnow "req-1"
  obtain ⟨-, -, hrefused⟩ := compiled_of_environment (within "EU/West") hnow "req-1"
  exact ⟨hdefault, hcompiled hplain, hrefused "EU/West" rfl (by decide) empty rfl⟩

/-- A dataspace with a slash is no name that an inquiry can use. It is neither reported nor passed
over, and the inquiry that leaves everything out is refused for it. -/
theorem not_compiled_within_slash :
    firstDay + 31 ≤ RequestDraft.spellingEachOther.window.stop.day ∧
      (Config.ofEnvironment (within "a/b")).records = [] ∧
      empty.resolve (Config.ofEnvironment (within "a/b")).value
          RequestDraft.spellingEachOther.window.stop "req-1" =
        .error (.refused (.event (.invalidDataspace "a/b"))) ∧
      ¬ ∃ resolved, empty.resolve (Config.ofEnvironment (within "a/b")).value
          RequestDraft.spellingEachOther.window.stop "req-1" = .ok resolved := by
  have hleft : empty.dataspace = none := rfl
  have hset : within "a/b" Config.dataspaceKey = some "a/b" := if_pos rfl
  have hname : Dataspace.normalize "a/b" = "a/b" := by decide +kernel
  have hrefused : empty.resolve (Config.ofEnvironment (within "a/b")).value
      RequestDraft.spellingEachOther.window.stop "req-1" =
        .error (.refused (.event (.invalidDataspace "a/b"))) := by
    rw [resolve_of_slash hleft hset (by decide), hname]
  refine ⟨by decide, rfl, hrefused, ?_⟩
  rintro ⟨resolved, hresolved⟩
  rw [hrefused] at hresolved
  cases hresolved

end Inquiry

end Rollup
