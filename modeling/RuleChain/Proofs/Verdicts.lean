import Mathlib.Tactic.Lemma
import RuleChain.Rule.Judgement

/-!
# Verdicts of handlers

Most handlers look at the value only. Such a handler has one verdict on a value in every call: it
passes on a result, or it fails the value and leaves it as it is.
-/

namespace RuleChain.Proofs

/-- A handler has this verdict on a value, whatever the settings, the registry and the call are. -/
def Judged (handler : Handler) (value : Tree) (verdict : Verdict) : Prop :=
  ∀ settings registry call, Handler.judge settings registry handler call value = .ok verdict

/-- A handler passes a value on as this result. -/
def Turns (handler : Handler) (value result : Tree) : Prop :=
  Judged handler value (.proceed result)

/-- A handler fails a value and leaves it as it is. -/
def Declines (handler : Handler) (value : Tree) : Prop :=
  ∃ template, Judged handler value (.fail template value)

section Handlers

variable {accepts : Tree → Bool} {template : String} {value result : Tree}

lemma judged_plain_iff {judge : Tree → Judgement} {verdict : Verdict} :
    Judged (.plain fun _ value => judge value) value verdict ↔ judge value = .ok verdict := by
  constructor
  · intro h
    have hjudge := h {} {} ⟨"", "", ""⟩
    rwa [Handler.judge] at hjudge
  · intro h settings registry call
    rw [Handler.judge]
    exact h

lemma turns_test_iff :
    Turns (.test accepts template) value value ↔ accepts value = true := by
  rw [Turns, Handler.test, judged_plain_iff]
  cases accepts value <;> simp [Verdict.check, Verdict.proceed, Verdict.fail]

lemma declines_test_iff :
    Declines (.test accepts template) value ↔ accepts value = false := by
  simp only [Declines, Handler.test, judged_plain_iff]
  cases accepts value <;> simp [Verdict.check, Verdict.proceed, Verdict.fail]

lemma turns_convert_iff {f : Tree → Option Tree} :
    Turns (.convert f template) value result ↔ f value = some result := by
  rw [Turns, Handler.convert, judged_plain_iff]
  cases f value <;> simp [Verdict.proceed, Verdict.fail]

lemma declines_convert_iff {f : Tree → Option Tree} :
    Declines (.convert f template) value ↔ f value = none := by
  simp only [Declines, Handler.convert, judged_plain_iff]
  cases f value <;> simp [Verdict.proceed, Verdict.fail]

lemma turns_transform_iff {f : Tree → Tree} :
    Turns (.transform fun _ value => f value) value result ↔ f value = result := by
  rw [Turns, Handler.transform, judged_plain_iff]
  simp [Verdict.proceed]

end Handlers

end RuleChain.Proofs
