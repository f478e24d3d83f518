import RuleChain.Proofs.DocumentCheck

/-!
# Runs in step

Two engines, on registries of their own, take the same steps in a run as long as every call of the
run does the same in both. Main statement: the run then gives the same answer in both and leaves the
same records and the same value.
-/

namespace RuleChain.Proofs

variable {H H' : Type}

/-- Two engines read rules and paths alike and hold the same records and values. -/
structure InStep (engine : Engine H) (other : Engine H') : Prop where
  calls : ∀ rules : Chain, rules.calls engine.settings = rules.calls other.settings
  delimiter : engine.delimiter = other.delimiter
  rejections : engine.rejections = other.rejections
  currentKey : engine.currentKey = other.currentKey
  current : engine.current = other.current

lemma InStep.withKey {engine : Engine H} {other : Engine H'} (h : InStep engine other)
    (currentKey : String) :
    InStep { engine with currentKey } { other with currentKey } :=
  ⟨h.calls, h.delimiter, h.rejections, rfl, h.current⟩

lemma InStep.withCurrent {engine : Engine H} {other : Engine H'} (h : InStep engine other)
    (current : Tree) : InStep { engine with current } { other with current } :=
  ⟨h.calls, h.delimiter, h.rejections, h.currentKey, rfl⟩

lemma InStep.fieldValue {engine : Engine H} {other : Engine H'} (h : InStep engine other)
    (key : String) : engine.fieldValue key = other.fieldValue key := by
  rw [Engine.fieldValue, Engine.fieldValue, h.delimiter, h.current]

lemma InStep.eq {engine other : Engine H} (h : InStep engine other)
    (hsetup : SameSetup engine other) : engine = other := by
  obtain ⟨settings, registry, delimiter, rejections, currentKey, current⟩ := engine
  obtain ⟨-, hdelimiter, hrejections, hcurrentKey, hcurrent⟩ := h
  obtain ⟨hsettings, hregistry, -⟩ := hsetup
  simp only at *
  subst hsettings hregistry hdelimiter hrejections hcurrentKey hcurrent
  rfl

lemma InStep.finish {engine : Engine H} {other : Engine H'} (h : InStep engine other)
    (hsettings : engine.settings = other.settings) : engine.finish = other.finish := by
  simp only [Engine.finish, Engine.failure, hsettings, h.rejections, h.current]

/-- A call runs alike where its name resolves alike and the handler judges alike. -/
lemma runWith_congr {settings : Settings} {registry other : Registry H}
    {key label : String} {judge judge' : H → Tree → Judgement} {call : Call} {value : Tree}
    (hresolve : registry.resolve call.name = other.resolve call.name)
    (hjudge : ∀ handler, judge handler value = judge' handler value) :
    call.runWith settings registry key label judge value =
      call.runWith settings other key label judge' value := by
  unfold Call.runWith
  rw [hresolve]
  cases other.resolve call.name with
  | error e => rfl
  | ok handler => simp only [hjudge]

variable [Judging H] [Judging H']

/-- A call does the same in two engines, whatever the value and the field it is run for. -/
def RunsAlike (engine : Engine H) (other : Engine H') (call : Call) : Prop :=
  ∀ key label value, call.run engine.settings engine.registry key label value =
    call.run other.settings other.registry key label value

variable {engine : Engine H} {other : Engine H'}

lemma RunsAlike.of_sameSetup {after : Engine H} {after' : Engine H'} {call : Call}
    (h : RunsAlike engine other call) (hsetup : SameSetup after engine)
    (hsetup' : SameSetup after' other) : RunsAlike after after' call := by
  intro key label value
  rw [hsetup.settings, hsetup.registry, hsetup'.settings, hsetup'.registry]
  exact h key label value

lemma applyChain_inStep (h : InStep engine other) {calls : List Call}
    (hcalls : ∀ call ∈ calls, RunsAlike engine other call) (label : String) (value : Tree) :
    (engine.applyChain label calls value).1 = (other.applyChain label calls value).1 ∧
      InStep (engine.applyChain label calls value).2 (other.applyChain label calls value).2 := by
  induction calls generalizing value with
  | nil => exact ⟨rfl, h⟩
  | cons call calls ih =>
    have hrest : ∀ later ∈ calls, RunsAlike engine other later := fun later hlater =>
      hcalls later (List.mem_cons_of_mem _ hlater)
    have hrun : call.run engine.settings engine.registry engine.currentKey label value =
        call.run other.settings other.registry other.currentKey label value := by
      rw [h.currentKey]
      exact hcalls call List.mem_cons_self other.currentKey label value
    rw [Engine.applyChain, Engine.applyChain, hrun]
    cases call.run other.settings other.registry other.currentKey label value with
    | error e => exact ⟨rfl, h⟩
    | ok step =>
      cases step with
      | next left => exact ih hrest left
      | halt left => exact ⟨rfl, h⟩
      | reject rejection =>
        have hrecords : engine.rejections ++ [rejection] = other.rejections ++ [rejection] := by
          rw [h.rejections]
        exact ⟨rfl, h.calls, h.delimiter, hrecords, h.currentKey, h.current⟩

lemma field_inStep (h : InStep engine other) {f : Field}
    (hcalls : ∀ call ∈ f.rules.calls engine.settings, RunsAlike engine other call) :
    (engine.field f).1 = (other.field f).1 ∧ InStep (engine.field f).2 (other.field f).2 := by
  obtain ⟨hanswer, hafter⟩ := applyChain_inStep (h.withKey f.key) hcalls
    (Message.fieldLabel f.label f.key) (engine.fieldValue f.key)
  simp only [Engine.field]
  rw [← h.fieldValue f.key, ← h.calls f.rules]
  rcases heq : Engine.applyChain { engine with currentKey := f.key }
    (Message.fieldLabel f.label f.key) (f.rules.calls engine.settings) (engine.fieldValue f.key)
    with ⟨result, after⟩
  rcases heq' : Engine.applyChain { other with currentKey := f.key }
    (Message.fieldLabel f.label f.key) (f.rules.calls engine.settings) (engine.fieldValue f.key)
    with ⟨result', after'⟩
  rw [heq, heq'] at hanswer hafter
  obtain rfl : result = result' := hanswer
  cases result with
  | error e => exact ⟨rfl, hafter.withKey ""⟩
  | ok value =>
    have hwritten : Path.set after.delimiter after.current after.currentKey value =
        Path.set after'.delimiter after'.current after'.currentKey value := by
      rw [hafter.delimiter, hafter.current, hafter.currentKey]
    dsimp only
    rw [hwritten]
    exact ⟨rfl, (hafter.withKey "").withCurrent _⟩

lemma fields_inStep (h : InStep engine other) {fs : List Field}
    (hcalls : ∀ call ∈ fs.flatMap fun f => f.rules.calls engine.settings,
      RunsAlike engine other call) :
    (engine.fields fs).1 = (other.fields fs).1 ∧
      InStep (engine.fields fs).2 (other.fields fs).2 := by
  induction fs generalizing engine other with
  | nil => exact ⟨rfl, h⟩
  | cons f rest ih =>
    rw [List.flatMap_cons] at hcalls
    have hsetup := field_sameSetup engine f
    have hsetup' := field_sameSetup other f
    obtain ⟨hanswer, hafter⟩ := field_inStep h fun call hcall =>
      hcalls call (List.mem_append_left _ hcall)
    rw [Engine.fields, Engine.fields]
    rcases heq : engine.field f with ⟨result, after⟩
    rcases heq' : other.field f with ⟨result', after'⟩
    rw [heq, heq'] at hanswer hafter
    rw [heq] at hsetup
    rw [heq'] at hsetup'
    obtain rfl : result = result' := hanswer
    cases result with
    | error e => exact ⟨rfl, hafter⟩
    | ok =>
      apply ih hafter
      intro call hcall
      rw [hsetup.settings] at hcall
      have halike := hcalls call (List.mem_append_right _ hcall)
      exact halike.of_sameSetup hsetup hsetup'

/-- A run whose calls do the same in two engines with the same settings gives the same answer in
both and leaves the same. -/
theorem run_inStep (hsettings : engine.settings = other.settings)
    (hdelimiter : engine.delimiter = other.delimiter) (run : Run)
    (hcalls : ∀ call ∈ run.calls engine.settings, RunsAlike engine other call) :
    (run.on engine).1 = (run.on other).1 ∧ InStep (run.on engine).2 (run.on other).2 := by
  have hreset : InStep engine.reset other.reset :=
    ⟨fun rules => congrArg rules.calls hsettings, hdelimiter, rfl, rfl, rfl⟩
  cases run with
  | single input rules label =>
    rw [Run.calls] at hcalls
    have hsetup := applyChain_sameSetup engine.reset (Message.fieldLabel label "")
      (rules.calls engine.settings) input
    have hsetup' := applyChain_sameSetup other.reset (Message.fieldLabel label "")
      (rules.calls engine.settings) input
    obtain ⟨hanswer, hafter⟩ := applyChain_inStep hreset hcalls (Message.fieldLabel label "") input
    have hstart : rules.calls other.reset.settings = rules.calls engine.settings :=
      (hreset.calls rules).symm
    have hstart' : rules.calls engine.reset.settings = rules.calls engine.settings := rfl
    simp only [Run.on, Engine.value, hstart, hstart']
    rcases heq : engine.reset.applyChain (Message.fieldLabel label "")
      (rules.calls engine.settings) input with ⟨result, after⟩
    rcases heq' : other.reset.applyChain (Message.fieldLabel label "")
      (rules.calls engine.settings) input with ⟨result', after'⟩
    rw [heq] at hsetup hanswer hafter
    rw [heq'] at hsetup' hanswer hafter
    obtain rfl : result = result' := hanswer
    cases result with
    | error e => exact ⟨rfl, hafter⟩
    | ok value =>
      have hkept : after.settings = after'.settings :=
        hsetup.settings.trans (hsettings.trans hsetup'.settings.symm)
      have hleft := hafter.withCurrent value
      exact ⟨hleft.finish hkept, hleft⟩
  | keyed input fs =>
    rw [Run.calls] at hcalls
    have hsetup := fields_sameSetup { engine.reset with current := input } fs
    have hsetup' := fields_sameSetup { other.reset with current := input } fs
    obtain ⟨hanswer, hafter⟩ := fields_inStep (hreset.withCurrent input) hcalls
    simp only [Run.on, Engine.values]
    rcases heq : Engine.fields { engine.reset with current := input } fs with ⟨result, after⟩
    rcases heq' : Engine.fields { other.reset with current := input } fs with ⟨result', after'⟩
    rw [heq] at hsetup hanswer hafter
    rw [heq'] at hsetup' hanswer hafter
    obtain rfl : result = result' := hanswer
    cases result with
    | error e => exact ⟨rfl, hafter⟩
    | ok =>
      have hkept : after.settings = after'.settings :=
        hsetup.settings.trans (hsettings.trans hsetup'.settings.symm)
      exact ⟨hafter.finish hkept, hafter⟩

section Checks
open DocumentChecker

lemma value_inStep (h : InStep engine other) (hsettings : engine.settings = other.settings)
    {rules : Chain} (hcalls : ∀ call ∈ rules.calls engine.settings, RunsAlike engine other call)
    (input : Tree) (label : Option String) :
    (engine.value input rules label).1 = (other.value input rules label).1 ∧
      InStep (engine.value input rules label).2 (other.value input rules label).2 :=
  run_inStep hsettings h.delimiter (.single input rules label) hcalls

lemma checkValues_inStep (h : InStep engine other) (hsettings : engine.settings = other.settings)
    {rule : String} (hcall : RunsAlike engine other (.ofToken engine.settings rule))
    (values : List Tree) :
    (checkValues engine rule values).1 = (checkValues other rule values).1 ∧
      InStep (checkValues engine rule values).2 (checkValues other rule values).2 := by
  induction values generalizing engine other with
  | nil => exact ⟨rfl, h⟩
  | cons value values ih =>
    have hsetup := value_sameSetup engine value (.tokens [rule]) none
    have hsetup' := value_sameSetup other value (.tokens [rule]) none
    have hcalls : ∀ call ∈ Chain.calls engine.settings (.tokens [rule]),
        RunsAlike engine other call := by
      simpa [Chain.calls, Chain.toTokens] using hcall
    obtain ⟨hanswer, hafter⟩ := value_inStep h hsettings hcalls value none
    rw [checkValues, checkValues]
    rcases heq : engine.value value (.tokens [rule]) none with ⟨result, after⟩
    rcases heq' : other.value value (.tokens [rule]) none with ⟨result', after'⟩
    rw [heq] at hsetup hanswer hafter
    rw [heq'] at hsetup' hanswer hafter
    obtain rfl : result = result' := hanswer
    cases result with
    | error fault => exact ⟨rfl, hafter⟩
    | ok left =>
      have hkept : after.settings = after'.settings :=
        hsetup.settings.trans (hsettings.trans hsetup'.settings.symm)
      apply ih hafter hkept
      rw [hsetup.settings]
      exact hcall.of_sameSetup hsetup hsetup'

lemma checkTargets_inStep (h : InStep engine other) (hsettings : engine.settings = other.settings)
    {expressions : List String}
    (hcalls : ∀ expression ∈ expressions, ∀ target,
      Target.parse engine.settings expression = .ok target →
        RunsAlike engine other (target.call engine.settings))
    (tokens : PathTokens) (document : Tree) :
    (checkTargets tokens document engine expressions).1 =
        (checkTargets tokens document other expressions).1 ∧
      InStep (checkTargets tokens document engine expressions).2
        (checkTargets tokens document other expressions).2 := by
  induction expressions generalizing engine other with
  | nil => exact ⟨rfl, h⟩
  | cons expression rest ih =>
    have hrest : ∀ e ∈ rest, ∀ target, Target.parse engine.settings e = .ok target →
        RunsAlike engine other (target.call engine.settings) := fun e he =>
      hcalls e (List.mem_cons_of_mem _ he)
    rw [checkTargets, checkTargets, ← hsettings]
    split
    · exact ih h hsettings hrest
    · cases hparse : Target.parse engine.settings expression with
      | error e => exact ⟨rfl, h⟩
      | ok target =>
        have hsetup := checkValues_sameSetup engine target.rule
          (tokens.targets document target.path)
        have hsetup' := checkValues_sameSetup other target.rule
          (tokens.targets document target.path)
        obtain ⟨hanswer, hafter⟩ := checkValues_inStep h hsettings
          (hcalls expression List.mem_cons_self target hparse)
          (tokens.targets document target.path)
        dsimp only
        rcases heq : checkValues engine target.rule (tokens.targets document target.path)
          with ⟨result, after⟩
        rcases heq' : checkValues other target.rule (tokens.targets document target.path)
          with ⟨result', after'⟩
        rw [heq] at hsetup hanswer hafter
        rw [heq'] at hsetup' hanswer hafter
        obtain rfl : result = result' := hanswer
        cases result with
        | error fault => exact ⟨rfl, hafter⟩
        | ok =>
          have hkept : after.settings = after'.settings :=
            hsetup.settings.trans (hsettings.trans hsetup'.settings.symm)
          apply ih hafter hkept
          intro e he target' hparse'
          rw [hsetup.settings] at hparse' ⊢
          exact (hrest e he target' hparse').of_sameSetup hsetup hsetup'

end Checks

end RuleChain.Proofs
