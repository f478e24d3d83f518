import RuleChain.Builtin.Kind
import RuleChain.Proofs.ChainRun
import RuleChain.Proofs.NestedCheck

/-!
# Nested registries

The engine of a nested check is made anew of settings and registry, and what the settings map is
mapped once more on the way. Main statement: at every depth a rule resolves as the engine that runs
the check resolves it, except that a name the settings map has the identifier it has there. A name
that was mapped anew after the engine was made goes back to it inside nested checks.
-/

namespace RuleChain.Proofs

section Registries

variable {H : Type}

/-- The identifier that mappings give a name, which is that of the last one for the name in any
letter case. -/
def mappedTo? (rules : List (String × String)) (name : String) : Option String :=
  (rules.reverse.find? fun rule => Text.lower rule.1 = Text.lower name).map (·.2)

lemma mappedTo?_cons (rule : String × String) (rules : List (String × String)) (name : String) :
    mappedTo? (rule :: rules) name = (mappedTo? rules name).or
      (if Text.lower rule.1 = Text.lower name then some rule.2 else none) := by
  unfold mappedTo?
  rw [List.reverse_cons, List.find?_append]
  cases rules.reverse.find? fun rule => Text.lower rule.1 = Text.lower name with
  | some found => rfl
  | none => by_cases h : Text.lower rule.1 = Text.lower name <;> simp [h]

lemma handlerId?_addRule (registry : Registry H) (key id name : String) :
    (registry.addRule key id).handlerId? name =
      if Text.lower key = Text.lower name then some id else registry.handlerId? name :=
  Table.get?_insert registry.names (Text.lower key) id (Text.lower name)

/-- Mappings that are added take the place of older ones. -/
lemma handlerId?_addRules (registry : Registry H) (rules : List (String × String))
    (name : String) :
    (registry.addRules rules).handlerId? name =
      (mappedTo? rules name).or (registry.handlerId? name) := by
  induction rules generalizing registry with
  | nil => rfl
  | cons rule rules ih =>
    have hstep : registry.addRules (rule :: rules) =
        (registry.addRule rule.1 rule.2).addRules rules := rfl
    rw [hstep, ih, handlerId?_addRule, mappedTo?_cons]
    cases mappedTo? rules name with
    | some id => rfl
    | none => by_cases h : Text.lower rule.1 = Text.lower name <;> simp [h]

lemma handlers_addRules (registry : Registry H) (rules : List (String × String)) :
    (registry.addRules rules).handlers = registry.handlers := by
  induction rules generalizing registry with
  | nil => rfl
  | cons rule rules ih => exact ih (registry.addRule rule.1 rule.2)

lemma addRule_of_handlerId? {registry : Registry H} {name id : String}
    (h : registry.handlerId? name = some id) : registry.addRule name id = registry := by
  rw [Registry.addRule, Table.insert_of_get? h]

lemma ensureRule_eq (registry : Registry H) (name id : String) :
    registry.ensureRule name id = registry.addRule name id := by
  unfold Registry.ensureRule
  split
  · next current h =>
    split
    · next hid => exact (addRule_of_handlerId? (hid ▸ h)).symm
    · rfl
  · rfl

/-- To leave alone what is in place already makes no difference. -/
theorem withSettings_eq_addRules (registry : Registry H) (settings : Settings) :
    registry.withSettings settings = registry.addRules settings.rules := by
  simp only [Registry.withSettings, Registry.addRules, ensureRule_eq]

lemma resolve_congr {registry other : Registry H} {name : String}
    (hid : registry.handlerId? name = other.handlerId? name)
    (hhandlers : registry.handlers = other.handlers) :
    registry.resolve name = other.resolve name := by
  unfold Registry.resolve
  rw [hid, hhandlers]

end Registries

section Engines

variable {H : Type} [Judging H]

/-- The engines that an engine made of settings and a registry becomes in use. -/
inductive EngineReached (settings : Settings) (registry : Registry H) : Engine H → Prop where
  | make {engine} (h : Engine.make? settings registry = .ok engine) :
      EngineReached settings registry engine
  | addRule {engine} (h : EngineReached settings registry engine) (name id : String) :
      EngineReached settings registry (engine.addRule name id)
  | addRules {engine} (h : EngineReached settings registry engine)
      (rules : List (String × String)) : EngineReached settings registry (engine.addRules rules)
  | addHandler {engine} (h : EngineReached settings registry engine) (id : String) (handler : H) :
      EngineReached settings registry (engine.addHandler id handler)
  | raising {engine} (h : EngineReached settings registry engine) (enabled : Bool) :
      EngineReached settings registry (engine.raising enabled)
  | withPathDelimiter {engine} (h : EngineReached settings registry engine) (delimiter : String) :
      EngineReached settings registry (engine.withPathDelimiter delimiter)
  | reset {engine} (h : EngineReached settings registry engine) :
      EngineReached settings registry engine.reset
  | addRejection {engine} (h : EngineReached settings registry engine)
      (template label options rule input : String) :
      EngineReached settings registry (engine.addRejection template label options rule input)
  | run {engine} (h : EngineReached settings registry engine) (run : Run) :
      EngineReached settings registry (run.on engine).2

/-- In use an engine keeps what its settings map, and its tokens stay usable. -/
theorem engineReached_keeps_configuration {settings : Settings} {registry : Registry H}
    {engine : Engine H} (h : EngineReached settings registry engine) :
    engine.settings.rules = settings.rules ∧ engine.settings.check = .ok () := by
  induction h with
  | make h =>
    obtain ⟨hcheck, rfl⟩ := make?_eq_ok_iff.1 h
    exact ⟨rfl, hcheck⟩
  | addRule _ _ _ ih => exact ih
  | addRules _ _ ih => exact ih
  | addHandler _ _ _ ih => exact ih
  | raising _ _ ih => exact ih
  | withPathDelimiter _ _ ih => exact ih
  | reset _ ih => exact ih
  | addRejection _ _ _ _ _ _ ih => exact ih
  | @run engine _ run ih =>
    rw [(run_sameSetup run engine).settings]
    exact ih

end Engines

/-- The engine that checks documents some levels below an engine, which is itself at level zero. -/
def innerEngine (engine : Engine Handler) : Nat → Engine Handler
  | 0 => engine
  | depth + 1 =>
    nestedEngine (innerEngine engine depth).settings (innerEngine engine depth).registry

lemma innerEngine_rules (engine : Engine Handler) (depth : Nat) :
    (innerEngine engine depth).settings.rules = engine.settings.rules := by
  induction depth with
  | zero => rfl
  | succ depth ih => exact ih

lemma innerEngine_check (engine : Engine Handler) (depth : Nat) :
    (innerEngine engine depth).settings.check = engine.settings.check := by
  induction depth with
  | zero => rfl
  | succ depth ih => exact ih

lemma innerEngine_handlers (engine : Engine Handler) (depth : Nat) :
    (innerEngine engine depth).registry.handlers = engine.registry.handlers := by
  induction depth with
  | zero => rfl
  | succ depth ih =>
    rw [innerEngine, nestedEngine, withSettings_eq_addRules, handlers_addRules, ih]

/-- One level below, the configured mappings are put over the others; further levels change nothing
more. -/
lemma innerEngine_handlerId? (engine : Engine Handler) (depth : Nat) (name : String) :
    (innerEngine engine (depth + 1)).registry.handlerId? name =
      (mappedTo? engine.settings.rules name).or (engine.registry.handlerId? name) := by
  have hlevel : ∀ depth, (innerEngine engine (depth + 1)).registry.handlerId? name =
      (mappedTo? engine.settings.rules name).or
        ((innerEngine engine depth).registry.handlerId? name) := by
    intro depth
    rw [innerEngine, nestedEngine, withSettings_eq_addRules, handlerId?_addRules,
      innerEngine_rules]
  induction depth with
  | zero => exact hlevel 0
  | succ depth ih => rw [hlevel, ih, ← Option.or_assoc, Option.or_self]

/-- At each level the document rule checks its values in the engine of the next level. -/
lemma judge_document_eq_check_inner {engine : Engine Handler}
    (hcheck : engine.settings.check = .ok ()) (depth : Nat) {call : Call} (hoptions : call.options ≠ "")
    (value : Tree) :
    Handler.judge (innerEngine engine depth).settings (innerEngine engine depth).registry .document
        call value =
      afterCheck value (DocumentChecker.check ⟨innerEngine engine (depth + 1), .usual⟩ value
        (.tokens [call.options])).1 := by
  rw [judge_document_eq_check _ _ hoptions]
  cases hmake : Engine.make? (innerEngine engine depth).settings
    (innerEngine engine depth).registry with
  | error e =>
    rw [make?_eq_error_iff, innerEngine_check, hcheck] at hmake
    cases hmake
  | ok made =>
    simp only [ofEngine_of_make? hmake]
    rfl

/-- Whatever was done with an engine, the document rule never fails to make one for its check. In it,
and in the engines of the checks inside, a name that the settings map resolves as if it were mapped
to the configured identifier now; every other name resolves as in the engine that runs the check,
and so does a configured one that still has its identifier. -/
theorem nested_names_resolve_by_configuration {settings : Settings} {registry : Registry Handler}
    {engine : Engine Handler} (h : EngineReached settings registry engine) (depth : Nat) :
    let outer := innerEngine engine depth
    let inner := innerEngine engine (depth + 1)
    (∀ call value, call.options ≠ "" →
      Handler.judge outer.settings outer.registry .document call value =
        afterCheck value
          (DocumentChecker.check ⟨inner, .usual⟩ value (.tokens [call.options])).1) ∧
    (∀ name id, mappedTo? settings.rules name = some id →
      inner.registry.resolve name = (engine.registry.addRule name id).resolve name) ∧
    ∀ name, (∀ id, mappedTo? settings.rules name = some id →
        engine.registry.handlerId? name = some id) →
      inner.registry.resolve name = engine.registry.resolve name := by
  obtain ⟨hrules, hcheck⟩ := engineReached_keeps_configuration h
  have hinner := innerEngine_handlerId? engine depth
  have hhandlers := innerEngine_handlers engine (depth + 1)
  rw [hrules] at hinner
  refine ⟨?_, ?_, ?_⟩
  · intro call value hoptions
    exact judge_document_eq_check_inner hcheck depth hoptions value
  · intro name id hmapped
    apply resolve_congr
    · rw [hinner, hmapped, handlerId?_addRule, if_pos rfl]
      rfl
    · exact hhandlers
  · intro name hkept
    apply resolve_congr
    · rw [hinner]
      cases hmapped : mappedTo? settings.rules name with
      | none => rfl
      | some id => exact (hkept id hmapped).symm
    · exact hhandlers

section Sample

/-- Settings that map a name to the rule for texts. -/
def textSettings : Settings := { rules := [("check", "types::is_string")] }

def kindRegistry : Registry Handler where
  names := [("validatejson", "json::validate")]
  handlers := [("types::is_string", Builtin.isText), ("types::is_bool", Builtin.isBoolean),
    ("json::validate", .document)]

/-- An engine in which the name was mapped anew, to the rule for truth values. -/
def remappedEngine : Engine Handler :=
  Engine.addRule
    ⟨textSettings, kindRegistry.withSettings textSettings, textSettings.pathDelimiter, [], "", .null⟩
    "Check" "types::is_bool"

lemma remappedEngine_reached : EngineReached textSettings kindRegistry remappedEngine :=
  .addRule (.make rfl) "Check" "types::is_bool"

lemma remapped_name_is_truth_rule :
    remappedEngine.registry.resolve "check" = .ok Builtin.isBoolean := by rfl

theorem remapped_name_is_text_rule_in_checks :
    EngineReached textSettings kindRegistry remappedEngine ∧
      (innerEngine remappedEngine 1).registry.resolve "check" = .ok Builtin.isText := by
  have hmapped : mappedTo? textSettings.rules "check" = some "types::is_string" := by rfl
  have hinner := (nested_names_resolve_by_configuration remappedEngine_reached 0).2.1 "check"
    "types::is_string" hmapped
  exact ⟨remappedEngine_reached, hinner.trans (by rfl)⟩

def flagDocument : Tree := .object [("a", .bool true)]

def flagCall : Call := ⟨"validateJson", "check(a)", "validateJson[check(a)]"⟩

lemma nested_check_refuses_flag :
    Handler.judge remappedEngine.settings remappedEngine.registry .document flagCall flagDocument =
      .ok ⟨.fail "input must be text.", flagDocument⟩ := by
  have hparse : Target.parse (innerEngine remappedEngine 1).settings flagCall.options =
      .ok ⟨"a", "check"⟩ := by rfl
  have htargets : PathTokens.usual.targets flagDocument "a" = [.bool true] := by rfl
  have hfirst : firstRejection ((Target.call (innerEngine remappedEngine 1).settings
      ⟨"a", "check"⟩).run (innerEngine remappedEngine 1).settings
        (innerEngine remappedEngine 1).registry "" Message.defaultLabel) [.bool true] =
      .ok (some (.make "" "%s must be text." "input" "" "check" "true")) := by
    with_unfolding_all rfl
  have hraise : (innerEngine remappedEngine 1).settings.raiseFailures = true := rfl
  have hchecked := checkTargets_of_parse .usual flagDocument hraise (by rfl) hparse
  rw [htargets, hfirst] at hchecked
  have hcheck : remappedEngine.settings.check = .ok () := rfl
  have hoptions : flagCall.options ≠ "" := by decide
  have hjudge := judge_document_eq_check_inner hcheck 0 hoptions flagDocument
  have hdocument : flagDocument.document? = some flagDocument := rfl
  simp only [DocumentChecker.check, hdocument, Chain.toTokens, hchecked] at hjudge
  exact hjudge.trans (by rfl)

/-- The value passes the rule in a chain and is refused by it in a nested check. -/
theorem remapped_name_reverts_in_nested_check :
    EngineReached textSettings kindRegistry remappedEngine ∧
      (remappedEngine.value (.bool true) (.text "check") none).2.rejections = [] ∧
      (remappedEngine.value flagDocument (.text "validateJson[check(a)]") none).2.rejections.map
        (·.message) = ["input must be text."] := by
  refine ⟨remappedEngine_reached, ?_, ?_⟩
  · have hcalls : namedCalls remappedEngine.settings (.text "check") =
        [⟨"check", "", "check"⟩] := by rfl
    have hgives : Gives remappedEngine.settings remappedEngine.registry ⟨"check", "", "check"⟩
        (.bool true) ⟨.proceed, .bool true⟩ :=
      ⟨_, remapped_name_is_truth_rule, by with_unfolding_all rfl⟩
    have hends : ChainEnds remappedEngine.settings remappedEngine.registry
        (namedCalls remappedEngine.settings (.text "check")) (.bool true)
        (.through (.bool true)) := by
      rw [hcalls]
      exact .through (.cons hgives (.nil _))
    rw [value_of_chainEnds hends]
    rfl
  · have hcalls : namedCalls remappedEngine.settings (.text "validateJson[check(a)]") =
        [flagCall] := by rfl
    have hresolve : remappedEngine.registry.resolve "validateJson" = .ok .document := by rfl
    have hends : ChainEnds remappedEngine.settings remappedEngine.registry
        (namedCalls remappedEngine.settings (.text "validateJson[check(a)]")) flagDocument
        (.refused flagCall "input must be text." flagDocument) := by
      rw [hcalls]
      exact .cut (.nil _) (.fail ⟨_, hresolve, nested_check_refuses_flag⟩) []
    rw [value_of_chainEnds hends]
    rfl

end Sample

end RuleChain.Proofs
