import Mathlib.Tactic.Lemma
import RuleChain.DocumentChecker
import RuleChain.Proofs.RunSetup

/-!
# Nested checks

The document rule judges a value by a check of its own: by a checker on a new engine, which is made of
the settings and the registry of the engine that runs the rule. Main statement: the recursion that
evaluates the rule gives what this check gives, so the theory of checkers holds of nested documents
at every depth.
-/

namespace RuleChain.Proofs
open DocumentChecker

/-- The judgement of a value after it was checked: a failure becomes a refusal in the words of its
first record. -/
def afterCheck (value : Tree) : Answer Unit → Judgement
  | .ok () => .ok (.proceed value)
  | .error (.setup e) => .error e
  | .error (.failed failure) =>
    .ok (.fail (literalTemplate ((failure.rejections.head?.map (·.message)).getD failure.message))
      value)

/-- How the first rejection of some values ends a check with a status code. -/
def answerOfFirst (code : UInt16) : Except SetupError (Option Rejection) → Answer Unit
  | .error e => .error (.setup e)
  | .ok none => .ok ()
  | .ok (some rejection) => .error (.failed ⟨code, [rejection]⟩)

lemma afterCheck_answerOfFirst (value : Tree) (code : UInt16)
    (first : Except SetupError (Option Rejection)) :
    afterCheck value (answerOfFirst code first) = first.map (Verdict.ofFirst value) := by
  rcases first with e | ⟨⟩ | rejection <;> rfl

section Values

variable {H : Type}

lemma make?_eq_ok_iff {settings : Settings} {registry : Registry H} {engine : Engine H} :
    Engine.make? settings registry = .ok engine ↔ settings.check = .ok () ∧
      engine = ⟨settings, registry.withSettings settings, settings.pathDelimiter, [], "", .null⟩ := by
  unfold Engine.make?
  cases settings.check <;> simp [eq_comm]

lemma make?_eq_error_iff {settings : Settings} {registry : Registry H} {e : SetupError} :
    Engine.make? settings registry = .error e ↔ settings.check = .error e := by
  unfold Engine.make?
  cases settings.check <;> simp

variable [Judging H]

lemma applyChain_one (engine : Engine H) (label : String) (call : Call) (value : Tree) :
    engine.applyChain label [call] value =
      match call.run engine.settings engine.registry engine.currentKey label value with
      | .error e => (.error e, engine)
      | .ok (.next left) => (.ok left, engine)
      | .ok (.halt left) => (.ok left, engine)
      | .ok (.reject rejection) =>
        (.ok value, { engine with rejections := engine.rejections ++ [rejection] }) := by
  rw [Engine.applyChain]
  split <;> simp_all [Engine.applyChain]

lemma value_of_one_call {engine : Engine H} (hraise : engine.settings.raiseFailures = true)
    (value : Tree) (rule : String) :
    (engine.value value (.tokens [rule]) none).1 =
      match (Call.ofToken engine.settings rule).run engine.settings engine.registry ""
        Message.defaultLabel value with
      | .error e => .error (.setup e)
      | .ok (.next left) => .ok left
      | .ok (.halt left) => .ok left
      | .ok (.reject rejection) => .error (.failed ⟨engine.settings.failureCode, [rejection]⟩) := by
  have hcalls : Chain.calls engine.reset.settings (.tokens [rule]) =
      [Call.ofToken engine.settings rule] := rfl
  simp only [Engine.value, hcalls, applyChain_one]
  have hrun : (Call.ofToken engine.settings rule).run engine.reset.settings engine.reset.registry
      engine.reset.currentKey (Message.fieldLabel none "") value =
        (Call.ofToken engine.settings rule).run engine.settings engine.registry ""
          Message.defaultLabel value := rfl
  rw [hrun]
  cases (Call.ofToken engine.settings rule).run engine.settings engine.registry ""
    Message.defaultLabel value with
  | error e => rfl
  | ok step =>
    cases step with
    | next left => simp [Engine.finish, Engine.reset]
    | halt left => simp [Engine.finish, Engine.reset]
    | reject rejection => simp [Engine.finish, Engine.failure, Engine.reset, hraise]

/-- Checking values in a raising engine looks for the first rejection. -/
lemma checkValues_eq_firstRejection {engine : Engine H}
    (hraise : engine.settings.raiseFailures = true) (rule : String) (values : List Tree) :
    (checkValues engine rule values).1 =
      answerOfFirst engine.settings.failureCode
        (firstRejection ((Call.ofToken engine.settings rule).run engine.settings engine.registry ""
          Message.defaultLabel) values) := by
  induction values generalizing engine with
  | nil => rfl
  | cons value values ih =>
    have hsetup := value_sameSetup engine value (.tokens [rule]) none
    have hvalue := value_of_one_call hraise value rule
    rcases heq : engine.value value (.tokens [rule]) none with ⟨result, after⟩
    rw [heq] at hsetup hvalue
    have hafter : after.settings.raiseFailures = true := by rw [hsetup.settings, hraise]
    have hrest := ih hafter
    rw [hsetup.settings, hsetup.registry] at hrest
    simp only [checkValues, heq, firstRejection]
    cases hrun : (Call.ofToken engine.settings rule).run engine.settings engine.registry ""
      Message.defaultLabel value with
    | error e =>
      rw [hrun] at hvalue
      obtain rfl : result = .error (.setup e) := hvalue
      rfl
    | ok step =>
      rw [hrun] at hvalue
      cases step with
      | next left =>
        obtain rfl : result = .ok left := hvalue
        exact hrest
      | halt left =>
        obtain rfl : result = .ok left := hvalue
        exact hrest
      | reject rejection =>
        obtain rfl : result = .error (.failed ⟨engine.settings.failureCode, [rejection]⟩) := hvalue
        rfl

/-- A check by one expression that is a path rule. -/
lemma checkTargets_of_parse (tokens : PathTokens) (document : Tree) {engine : Engine H}
    (hraise : engine.settings.raiseFailures = true) {expression : String} {target : Target}
    (hnamed : Text.allBlank expression = false)
    (hparse : Target.parse engine.settings expression = .ok target) :
    (checkTargets tokens document engine [expression]).1 =
      answerOfFirst engine.settings.failureCode
        (firstRejection ((target.call engine.settings).run engine.settings engine.registry ""
          Message.defaultLabel) (tokens.targets document target.path)) := by
  have hvalues := checkValues_eq_firstRejection hraise target.rule
    (tokens.targets document target.path)
  rw [Target.call, ← hvalues]
  simp only [checkTargets, hnamed, Bool.false_eq_true, if_false, hparse]
  rcases checkValues engine target.rule (tokens.targets document target.path) with ⟨⟨⟩ | ⟨⟩, after⟩ <;>
    rfl

end Values

/-- The engine that the document rule makes for its check. -/
def nestedEngine (settings : Settings) (registry : Registry Handler) : Engine Handler where
  settings := { settings with raiseFailures := true }
  registry := registry.withSettings settings
  delimiter := settings.pathDelimiter
  rejections := []
  currentKey := ""
  current := .null

lemma ofEngine_of_make? {settings : Settings} {registry : Registry Handler}
    {engine : Engine Handler} (h : Engine.make? settings registry = .ok engine) :
    DocumentChecker.ofEngine engine = ⟨nestedEngine settings registry, .usual⟩ := by
  obtain ⟨-, rfl⟩ := make?_eq_ok_iff.1 h
  rfl

/-- A call that is run by the recursion is run as the nested engine runs it. -/
lemma run_nested (settings : Settings) (registry : Registry Handler) (call : Call) :
    (call.runWith settings (registry.withSettings settings) "" Message.defaultLabel
      fun handler item => handler.judge { settings with raiseFailures := true }
        (registry.withSettings settings) call item) =
      call.run (nestedEngine settings registry).settings (nestedEngine settings registry).registry
        "" Message.defaultLabel :=
  rfl

/-- The document rule with options judges a value by checking it with a new engine, made of the
settings and the registry at hand, by the path rule in its options. -/
theorem judge_document_eq_check (settings : Settings) (registry : Registry Handler) {call : Call}
    (hoptions : call.options ≠ "") (value : Tree) :
    Handler.judge settings registry .document call value =
      match Engine.make? settings registry with
      | .error e => .error e
      | .ok engine =>
        afterCheck value ((ofEngine engine).check value (.tokens [call.options])).1 := by
  rw [Handler.judge, if_neg hoptions]
  cases hmake : Engine.make? settings registry with
  | error e => simp [make?_eq_error_iff.1 hmake]
  | ok engine =>
    obtain ⟨hcheck, -⟩ := make?_eq_ok_iff.1 hmake
    simp only [hcheck, ofEngine_of_make? hmake, DocumentChecker.check]
    cases hdocument : value.document? with
    | none => rfl
    | some document =>
      cases hblank : Text.allBlank call.options with
      | true => simp [checkTargets, Chain.toTokens, hblank, afterCheck]
      | false =>
        have hraise : (nestedEngine settings registry).settings.raiseFailures = true := rfl
        -- the flag is no part of the grammar
        have hflag : Target.parse (nestedEngine settings registry).settings call.options =
            Target.parse settings call.options := rfl
        cases hparse : Target.parse settings call.options with
        | error e =>
          simp [checkTargets, Chain.toTokens, hblank, hflag, hparse, afterCheck]
        | ok target =>
          have hchecked := checkTargets_of_parse .usual document hraise hblank
            (hflag.trans hparse)
          have htarget : target.call (nestedEngine settings registry).settings =
              target.call settings := rfl
          simp only [Chain.toTokens, hchecked, afterCheck_answerOfFirst, Bool.false_eq_true,
            if_false, run_nested, htarget]
          cases firstRejection _ _ <;> rfl

end RuleChain.Proofs
