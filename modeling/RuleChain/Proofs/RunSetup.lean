import Mathlib.Tactic.Lemma
import RuleChain.Engine

/-!
# What runs keep

A run replaces the records, the current key and the current value of an engine. Its settings, its
registry and its delimiter stay, and they are all that a run depends on: what earlier runs left has
no part in it.
-/

namespace RuleChain.Proofs

/-- A run of either kind. -/
inductive Run where
  | single (input : Tree) (rules : Chain) (label : Option String)
  | keyed (input : Tree) (fields : List Field)

/-- The calls that a run may come to. -/
def Run.calls (settings : Settings) : Run → List Call
  | single _ rules _ => rules.calls settings
  | keyed _ fields => fields.flatMap fun f => f.rules.calls settings

variable {H : Type}

/-- Two engines are set up alike: they differ at most in what runs leave. -/
structure SameSetup (engine other : Engine H) : Prop where
  settings : engine.settings = other.settings
  registry : engine.registry = other.registry
  delimiter : engine.delimiter = other.delimiter

lemma SameSetup.refl (engine : Engine H) : SameSetup engine engine :=
  ⟨rfl, rfl, rfl⟩

lemma SameSetup.symm {engine other : Engine H} (h : SameSetup engine other) :
    SameSetup other engine :=
  ⟨h.settings.symm, h.registry.symm, h.delimiter.symm⟩

lemma SameSetup.trans {engine other third : Engine H} (h : SameSetup engine other)
    (h' : SameSetup other third) : SameSetup engine third :=
  ⟨h.settings.trans h'.settings, h.registry.trans h'.registry, h.delimiter.trans h'.delimiter⟩

lemma SameSetup.raising {engine other : Engine H} (h : SameSetup engine other) (enabled : Bool) :
    SameSetup (engine.raising enabled) (other.raising enabled) where
  settings := by simp only [Engine.raising, h.settings]
  registry := h.registry
  delimiter := h.delimiter

/-- After a reset nothing is left but the setup. -/
lemma reset_eq_of_sameSetup {engine other : Engine H} (h : SameSetup engine other) :
    engine.reset = other.reset := by
  obtain ⟨settings, registry, delimiter, rejections, currentKey, current⟩ := engine
  obtain ⟨hsettings, hregistry, hdelimiter⟩ := h
  simp only at hsettings hregistry hdelimiter
  subst hsettings hregistry hdelimiter
  rfl

variable [Judging H]

/-- The answer of a run in an engine, and the engine after it. -/
def Run.on (engine : Engine H) : Run → Answer Tree × Engine H
  | single input rules label => engine.value input rules label
  | keyed input fields => engine.values input fields

lemma applyChain_sameSetup (engine : Engine H) (label : String) (calls : List Call)
    (value : Tree) : SameSetup (engine.applyChain label calls value).2 engine := by
  induction calls generalizing value with
  | nil => exact .refl engine
  | cons call calls ih =>
    rw [Engine.applyChain]
    split
    · exact .refl engine
    · next next _ => exact ih next
    · exact .refl engine
    · exact ⟨rfl, rfl, rfl⟩

lemma value_sameSetup (engine : Engine H) (input : Tree) (rules : Chain)
    (label : Option String) : SameSetup (engine.value input rules label).2 engine := by
  have hchain := applyChain_sameSetup engine.reset (Message.fieldLabel label "")
    (rules.calls engine.settings) input
  have hreset : SameSetup engine.reset engine := ⟨rfl, rfl, rfl⟩
  simp only [Engine.value]
  split
  · next e after hrun => exact (hrun ▸ hchain).trans hreset
  · next value after hrun =>
    have hafter : SameSetup after engine := (hrun ▸ hchain).trans hreset
    exact ⟨hafter.settings, hafter.registry, hafter.delimiter⟩

lemma field_sameSetup (engine : Engine H) (f : Field) : SameSetup (engine.field f).2 engine := by
  have hchain := applyChain_sameSetup { engine with currentKey := f.key }
    (Message.fieldLabel f.label f.key) (f.rules.calls engine.settings) (engine.fieldValue f.key)
  simp only [Engine.field]
  split
  · next e after hrun =>
    have hafter : SameSetup after engine := (hrun ▸ hchain).trans ⟨rfl, rfl, rfl⟩
    exact ⟨hafter.settings, hafter.registry, hafter.delimiter⟩
  · next value after hrun =>
    have hafter : SameSetup after engine := (hrun ▸ hchain).trans ⟨rfl, rfl, rfl⟩
    exact ⟨hafter.settings, hafter.registry, hafter.delimiter⟩

lemma fields_sameSetup (engine : Engine H) (fs : List Field) :
    SameSetup (engine.fields fs).2 engine := by
  induction fs generalizing engine with
  | nil => exact .refl engine
  | cons f rest ih =>
    have hfield := field_sameSetup engine f
    rw [Engine.fields]
    split
    · next e after hrun =>
      rw [hrun] at hfield
      exact hfield
    · next after hrun =>
      rw [hrun] at hfield
      exact (ih after).trans hfield

lemma values_sameSetup (engine : Engine H) (input : Tree) (fs : List Field) :
    SameSetup (engine.values input fs).2 engine := by
  have hfields := fields_sameSetup { engine.reset with current := input } fs
  simp only [Engine.values]
  split
  · next e after hrun => exact (hrun ▸ hfields).trans ⟨rfl, rfl, rfl⟩
  · next after hrun => exact (hrun ▸ hfields).trans ⟨rfl, rfl, rfl⟩

/-- A run keeps the setup of its engine, whether it succeeds or not. -/
theorem run_sameSetup (run : Run) (engine : Engine H) : SameSetup (run.on engine).2 engine := by
  cases run with
  | single input rules label => exact value_sameSetup engine input rules label
  | keyed input fields => exact values_sameSetup engine input fields

/-- The same run in two engines that are set up alike does the same, whatever was run before. -/
theorem run_eq_of_sameSetup (run : Run) {engine other : Engine H}
    (h : SameSetup engine other) : run.on engine = run.on other := by
  cases run with
  | single input rules label =>
    simp only [Run.on, Engine.value, reset_eq_of_sameSetup h]
  | keyed input fields =>
    simp only [Run.on, Engine.values, reset_eq_of_sameSetup h]

end RuleChain.Proofs
