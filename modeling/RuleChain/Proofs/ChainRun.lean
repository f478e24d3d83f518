import Mathlib.Logic.ExistsUnique
import Mathlib.Tactic.Lemma
import RuleChain.Engine

/-!
# Runs of a chain

A chain runs its calls in order as long as they proceed. The first call that does not proceed ends
it: the call stops the chain, refuses the value, or cannot be used, because its name is not mapped,
its handler does not exist, or the handler finds fault with the options. Main statement: every chain
has exactly one such ending, and the answer of a run and the engine after it can be read off the
ending, whatever calls stand behind.
-/

namespace RuleChain.Proofs

/-- How a chain ends, with the value as it is left. -/
inductive Ending where
  | through (value : Tree)
  | stopped (value : Tree)
  | refused (call : Call) (template : String) (value : Tree)
  | broken (error : SetupError)

/-- The value as a chain leaves it, unless a call cannot be used. -/
def Ending.outcome : Ending → Except SetupError Tree
  | through value => .ok value
  | stopped value => .ok value
  | refused _ _ value => .ok value
  | broken error => .error error

def refusal (settings : Settings) (key label : String) (call : Call) (template : String)
    (value : Tree) : Rejection :=
  let template := if template = "" then settings.defaultTemplate else template
  let options := Message.optionPhrase call.options settings.optionDelimiter
  { message := Message.interpolate template [label, options, call.name, value.plainText]
    key, template, label, options, rule := call.name, input := value.plainText }

/-- The records of a chain: one if a call refuses the value, else none. -/
def Ending.records (settings : Settings) (key label : String) : Ending → List Rejection
  | refused call template value => [refusal settings key label call template value]
  | _ => []

def namedCalls (settings : Settings) (rules : Chain) : List Call :=
  (rules.calls settings).filter fun call => !call.isBlank

section Endings

variable {H : Type} [Judging H] (settings : Settings) (registry : Registry H)

/-- A call resolves to a handler, which gives a verdict on a value. -/
def Gives (call : Call) (value : Tree) (verdict : Verdict) : Prop :=
  ∃ handler, registry.resolve call.name = .ok handler ∧
    Judging.judge settings registry handler call value = .ok verdict

/-- Calls that all proceed, one after another, make a value of another. -/
inductive Proceeds : List Call → Tree → Tree → Prop where
  | nil (value : Tree) : Proceeds [] value value
  | cons {call calls value next last} (h : Gives settings registry call value ⟨.proceed, next⟩)
      (hrest : Proceeds calls next last) : Proceeds (call :: calls) value last

/-- How a call that does not proceed on a value ends its chain. -/
inductive EndsAt (call : Call) (value : Tree) : Ending → Prop where
  | stop {left} (h : Gives settings registry call value ⟨.stop, left⟩) :
      EndsAt call value (.stopped left)
  | fail {template left} (h : Gives settings registry call value ⟨.fail template, left⟩) :
      EndsAt call value (.refused call template value)
  | unmapped (h : registry.handlerId? call.name = none) :
      EndsAt call value (.broken (.unknownRule (Text.lower call.name)))
  | dangling {id} (h : registry.handlerId? call.name = some id)
      (hid : Table.get? registry.handlers id = none) :
      EndsAt call value (.broken (.unknownHandler (Text.lower call.name) id))
  | unusable {handler e} (h : registry.resolve call.name = .ok handler)
      (he : Judging.judge settings registry handler call value = .error e) :
      EndsAt call value (.broken e)

/-- How calls end on a value. What stands behind the call that ends them is of no account. -/
inductive ChainEnds : List Call → Tree → Ending → Prop where
  | through {calls value last} (h : Proceeds settings registry calls value last) :
      ChainEnds calls value (.through last)
  | cut {before call value reached ending}
      (hbefore : Proceeds settings registry before value reached)
      (h : EndsAt settings registry call reached ending) (after : List Call) :
      ChainEnds (before ++ call :: after) value ending

def judged (call : Call) (value : Tree) : Judgement :=
  match registry.resolve call.name with
  | .error e => .error e
  | .ok handler => Judging.judge settings registry handler call value

variable {settings registry}

lemma gives_iff {call : Call} {value : Tree} {verdict : Verdict} :
    Gives settings registry call value verdict ↔
      judged settings registry call value = .ok verdict := by
  unfold Gives judged
  cases registry.resolve call.name <;> simp

/-- The ending that a judgement makes, unless the chain goes on. -/
def endingOf? (call : Call) (value : Tree) : Judgement → Option Ending
  | .error e => some (.broken e)
  | .ok ⟨.proceed, _⟩ => none
  | .ok ⟨.stop, left⟩ => some (.stopped left)
  | .ok ⟨.fail template, _⟩ => some (.refused call template value)

lemma endsAt_of_broken {call : Call} {value : Tree} {e : SetupError}
    (h : judged settings registry call value = .error e) :
    EndsAt settings registry call value (.broken e) := by
  unfold judged at h
  split at h
  · next e' hresolve =>
    obtain rfl := Except.error.inj h
    unfold Registry.resolve at hresolve
    split at hresolve
    · next hid =>
      obtain rfl := Except.error.inj hresolve
      exact .unmapped hid
    · next id hid =>
      split at hresolve
      · next hhandler =>
        obtain rfl := Except.error.inj hresolve
        exact .dangling hid hhandler
      · cases hresolve
  · next handler hresolve => exact .unusable hresolve h

lemma endsAt_iff {call : Call} {value : Tree} {ending : Ending} :
    EndsAt settings registry call value ending ↔
      endingOf? call value (judged settings registry call value) = some ending := by
  constructor
  · intro h
    cases h with
    | stop h => rw [gives_iff.1 h, endingOf?]
    | fail h => rw [gives_iff.1 h, endingOf?]
    | unmapped h => simp [judged, Registry.resolve, h, endingOf?]
    | dangling h hid => simp [judged, Registry.resolve, h, hid, endingOf?]
    | unusable h he => simp [judged, h, he, endingOf?]
  · intro h
    cases hjudged : judged settings registry call value with
    | error e =>
      rw [hjudged, endingOf?, Option.some.injEq] at h
      exact h ▸ endsAt_of_broken hjudged
    | ok verdict =>
      obtain ⟨outcome, left⟩ := verdict
      have hgives := gives_iff.2 hjudged
      rw [hjudged] at h
      cases outcome with
      | proceed => cases h
      | stop => exact Option.some.inj h ▸ .stop hgives
      | fail template => exact Option.some.inj h ▸ .fail hgives

lemma chainEnds_nil_iff {value : Tree} {ending : Ending} :
    ChainEnds settings registry [] value ending ↔ ending = .through value := by
  constructor
  · generalize hcalls : ([] : List Call) = calls
    rintro (h | ⟨-, -, after⟩)
    · subst hcalls
      cases h
      rfl
    · simp at hcalls
  · rintro rfl
    exact .through (.nil value)

lemma chainEnds_cons_iff {call : Call} {calls : List Call} {value : Tree} {ending : Ending} :
    ChainEnds settings registry (call :: calls) value ending ↔
      (∃ next, Gives settings registry call value ⟨.proceed, next⟩ ∧
        ChainEnds settings registry calls next ending) ∨
      EndsAt settings registry call value ending := by
  constructor
  · generalize hcalls : call :: calls = all
    rintro (h | ⟨hbefore, h, after⟩)
    · subst hcalls
      cases h with
      | cons hgives hrest => exact .inl ⟨_, hgives, .through hrest⟩
    · cases hbefore with
      | nil =>
        obtain ⟨rfl, -⟩ := List.cons.inj hcalls
        exact .inr h
      | cons hgives hrest =>
        obtain ⟨rfl, rfl⟩ := List.cons.inj hcalls
        exact .inl ⟨_, hgives, .cut hrest h after⟩
  · rintro (⟨next, hgives, hrest⟩ | h)
    · cases hrest with
      | through h => exact .through (.cons hgives h)
      | cut hbefore h after => exact .cut (.cons hgives hbefore) h after
    · exact .cut (.nil value) h calls

theorem existsUnique_chainEnds (settings : Settings) (registry : Registry H) (calls : List Call)
    (value : Tree) :
    ∃! ending, ChainEnds settings registry calls value ending := by
  induction calls generalizing value with
  | nil => simp [chainEnds_nil_iff]
  | cons call calls ih =>
    simp only [chainEnds_cons_iff, endsAt_iff, gives_iff]
    cases hjudged : judged settings registry call value with
    | error e => simp [endingOf?]
    | ok verdict =>
      obtain ⟨outcome, left⟩ := verdict
      cases outcome with
      | proceed => simpa [endingOf?] using ih left
      | stop => simp [endingOf?]
      | fail template => simp [endingOf?]

end Endings

section Runs

variable {H : Type} [Judging H] {settings : Settings} {registry : Registry H}

def afterChain (engine : Engine H) (label : String) (ending : Ending) :
    Except SetupError Tree × Engine H :=
  (ending.outcome, { engine with
    rejections := engine.rejections ++ ending.records engine.settings engine.currentKey label })

lemma run_of_blank {call : Call} (h : call.isBlank = true) (key label : String) (value : Tree) :
    call.run settings registry key label value = .ok (.next value) := by
  simp [Call.run, Call.runWith, h]

lemma run_of_named {call : Call} (h : call.isBlank = false) (key label : String) (value : Tree) :
    call.run settings registry key label value =
      (judged settings registry call value).map (Step.ofVerdict settings key label call value) := by
  simp only [Call.run, Call.runWith, h, judged]
  cases registry.resolve call.name with
  | error e => rfl
  | ok handler =>
    cases hjudge : Judging.judge settings registry handler call value <;> simp [hjudge, Except.map]

lemma applyChain_namedCalls (engine : Engine H) (label : String) (calls : List Call)
    (value : Tree) :
    engine.applyChain label (calls.filter fun call => !call.isBlank) value =
      engine.applyChain label calls value := by
  induction calls generalizing value with
  | nil => rfl
  | cons call calls ih =>
    cases hblank : call.isBlank with
    | true => simp [Engine.applyChain, hblank, run_of_blank hblank, ih]
    | false =>
      simp only [List.filter_cons, hblank, Bool.not_false, if_true, Engine.applyChain]
      split <;> simp [ih]

lemma applyChain_of_named (engine : Engine H) (label : String) {calls : List Call} {value : Tree}
    {ending : Ending} (hnames : ∀ call ∈ calls, call.isBlank = false)
    (h : ChainEnds engine.settings engine.registry calls value ending) :
    engine.applyChain label calls value = afterChain engine label ending := by
  induction calls generalizing value with
  | nil =>
    obtain rfl := chainEnds_nil_iff.1 h
    simp [Engine.applyChain, afterChain, Ending.outcome, Ending.records]
  | cons call calls ih =>
    rw [Engine.applyChain, run_of_named (hnames call (by simp))]
    rw [chainEnds_cons_iff, endsAt_iff] at h
    simp only [gives_iff] at h
    cases hjudged : judged engine.settings engine.registry call value with
    | error e =>
      obtain rfl : .broken e = ending := by simpa [hjudged, endingOf?] using h
      simp [Except.map, afterChain, Ending.outcome, Ending.records]
    | ok verdict =>
      obtain ⟨outcome, left⟩ := verdict
      cases outcome with
      | proceed =>
        have hrest : ChainEnds engine.settings engine.registry calls left ending := by
          simpa [hjudged, endingOf?] using h
        exact ih (fun call hcall => hnames call (by simp [hcall])) hrest
      | stop =>
        obtain rfl : .stopped left = ending := by simpa [hjudged, endingOf?] using h
        simp [Except.map, Step.ofVerdict, afterChain, Ending.outcome, Ending.records]
      | fail template =>
        obtain rfl : .refused call template value = ending := by
          simpa [hjudged, endingOf?] using h
        rfl

theorem applyChain_of_chainEnds (engine : Engine H) (label : String) {rules : Chain}
    {value : Tree} {ending : Ending}
    (h : ChainEnds engine.settings engine.registry (namedCalls engine.settings rules) value
      ending) :
    engine.applyChain label (rules.calls engine.settings) value =
      afterChain engine label ending := by
  rw [← applyChain_namedCalls]
  refine applyChain_of_named engine label ?_ h
  intro call hcall
  simpa using (List.mem_filter.1 hcall).2

/-- The answer of a run on one value whose chain has an ending, and the engine after the run. -/
def answerOf (engine : Engine H) (label : String) (ending : Ending) : Answer Tree × Engine H :=
  let blank := { engine with rejections := [], currentKey := "", current := .null }
  match ending with
  | .through value => (.ok value, { blank with current := value })
  | .stopped value => (.ok value, { blank with current := value })
  | .refused call template value =>
    let record := refusal engine.settings "" label call template value
    (if engine.settings.raiseFailures then
        .error (.failed ⟨engine.settings.failureCode, [record]⟩)
      else .ok value,
      { blank with rejections := [record], current := value })
  | .broken e => (.error (.setup e), blank)

theorem value_of_chainEnds {engine : Engine H} {rules : Chain} {input : Tree} {ending : Ending}
    (h : ChainEnds engine.settings engine.registry (namedCalls engine.settings rules) input
      ending) (label : Option String) :
    engine.value input rules label = answerOf engine (Message.fieldLabel label "") ending := by
  have hrun := applyChain_of_chainEnds engine.reset (Message.fieldLabel label "") h
  simp only [Engine.value, hrun]
  cases ending with
  | refused call template value =>
    cases hraise : engine.settings.raiseFailures <;>
      simp [afterChain, answerOf, Ending.outcome, Ending.records, Engine.reset, Engine.finish,
        Engine.failure, hraise]
  | _ =>
    simp [afterChain, answerOf, Ending.outcome, Ending.records, Engine.reset, Engine.finish]

/-- A run on one value answers as the one ending of its chain says: with the value that the last
call left, the value at which a call stopped, one record and the value before the call that refused
it, or the setup error of a call that cannot be used. No call behind the one that ended the chain
has a part in it, whether it could be used or not. -/
theorem value_answers_ending_of_chain (engine : Engine H) (input : Tree) (rules : Chain)
    (label : Option String) :
    ∃ ending,
      ChainEnds engine.settings engine.registry (namedCalls engine.settings rules) input ending ∧
      (∀ other, ChainEnds engine.settings engine.registry (namedCalls engine.settings rules) input
        other → other = ending) ∧
      engine.value input rules label = answerOf engine (Message.fieldLabel label "") ending ∧
      ∀ before call after reached, namedCalls engine.settings rules = before ++ call :: after →
        Proceeds engine.settings engine.registry before input reached →
        EndsAt engine.settings engine.registry call reached ending →
        ∀ rules' after', namedCalls engine.settings rules' = before ++ call :: after' →
          engine.value input rules' label = engine.value input rules label := by
  obtain ⟨ending, hends, hunique⟩ := existsUnique_chainEnds engine.settings engine.registry
    (namedCalls engine.settings rules) input
  refine ⟨ending, hends, hunique, value_of_chainEnds hends label, ?_⟩
  intro before call after reached hcalls hbefore hat rules' after' hcalls'
  have hends' : ChainEnds engine.settings engine.registry (namedCalls engine.settings rules') input
      ending := hcalls' ▸ .cut hbefore hat after'
  rw [value_of_chainEnds hends, value_of_chainEnds hends']

end Runs

end RuleChain.Proofs
