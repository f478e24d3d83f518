import RuleChain.Proofs.KeyedRun
import RuleChain.Proofs.NestedRegistry
import RuleChain.Proofs.RunsInStep

/-!
# Engines in use

What holds of every engine in use, whatever was done with it, also after runs that broke off: its
tokens are usable, its paths have the delimiter of its settings, no field is open, and every record
bears the message that its own pieces make. Main statement: all of this holds, and what a run does
depends on the settings and the rules of the engine and on nothing that happened before.
-/

namespace RuleChain.Proofs

/-- The message of a record is its template, filled with its label, options, rule and input. -/
def WellMade (record : Rejection) : Prop :=
  record.message =
    Message.interpolate record.template [record.label, record.options, record.rule, record.input]

/-- What holds of an engine between runs. -/
structure Sound {H : Type} (engine : Engine H) : Prop where
  check : engine.settings.check = .ok ()
  delimiter : engine.delimiter = engine.settings.pathDelimiter
  currentKey : engine.currentKey = ""
  records : ∀ record ∈ engine.rejections, WellMade record

/-- An engine that was made of some settings and some registry, at some point of its use. -/
def InUse {H : Type} [Judging H] (engine : Engine H) : Prop :=
  ∃ settings registry, EngineReached settings registry engine

/-- Two registries know the same rules: each name has the same identifier in both, and each
identifier the same handler. -/
structure SameRules {H : Type} (registry other : Registry H) : Prop where
  names : ∀ name, registry.handlerId? name = other.handlerId? name
  handlers : ∀ id, Table.get? registry.handlers id = Table.get? other.handlers id

/-- Handlers judge by the rules that a registry knows, whatever order these were added in. -/
def JudgesByRules (H : Type) [Judging H] : Prop :=
  ∀ settings (registry other : Registry H) handler call value, SameRules registry other →
    Judging.judge settings registry handler call value =
      Judging.judge settings other handler call value

section Soundness

variable {H : Type} [Judging H]

lemma wellMade_of_mem_records {settings : Settings} {key label : String} {ending : Ending}
    {record : Rejection} (h : record ∈ ending.records settings key label) : WellMade record := by
  cases ending with
  | refused call template value =>
    obtain rfl := List.mem_singleton.1 h
    rfl
  | _ => cases h

lemma wellMade_of_progress {settings : Settings} {registry : Registry H} {delimiter : String}
    {data last : Tree} {fs : List Field} {records : List Rejection}
    (h : Progress settings registry delimiter data fs last records) :
    ∀ record ∈ records, WellMade record := by
  induction h with
  | nil data => simp
  | cons hchain hvalue hwrite hrest ih =>
    intro record hrecord
    obtain hown | hlater := List.mem_append.1 hrecord
    · exact wellMade_of_mem_records hown
    · exact ih record hlater

lemma wellMade_of_breaks {settings : Settings} {registry : Registry H} {delimiter : String}
    {data : Tree} {f : Field} {e : SetupError} {own : List Rejection}
    (h : Breaks settings registry delimiter data f e own) : ∀ record ∈ own, WellMade record := by
  cases h with
  | chain h => simp
  | write hchain hvalue hwrite => exact fun record hrecord => wellMade_of_mem_records hrecord

lemma Sound.value {engine : Engine H} (h : Sound engine) (input : Tree) (rules : Chain)
    (label : Option String) : Sound (engine.value input rules label).2 := by
  obtain ⟨ending, hends, -⟩ := existsUnique_chainEnds engine.settings engine.registry
    (namedCalls engine.settings rules) input
  rw [value_of_chainEnds hends]
  cases ending with
  | refused call template value =>
    have hrecords : ∀ record ∈ (Ending.refused call template value).records engine.settings ""
        (Message.fieldLabel label ""), WellMade record := fun record hrecord =>
      wellMade_of_mem_records hrecord
    exact ⟨h.check, h.delimiter, rfl, hrecords⟩
  | _ => exact ⟨h.check, h.delimiter, rfl, by simp [answerOf]⟩

/-- A keyed run, whether it goes through or is broken off, leaves a sound engine. -/
lemma Sound.values {engine : Engine H} (h : Sound engine) (input : Tree) (fs : List Field) :
    Sound (engine.values input fs).2 := by
  obtain ⟨last, records, hall⟩ | ⟨done, f, rest, last, records, e, own, rfl, hdone, hf⟩ :=
    progress_or_breaks engine.settings engine.registry engine.delimiter input fs
  · rw [values_of_progress hall]
    exact ⟨h.check, h.delimiter, rfl, wellMade_of_progress hall⟩
  · rw [values_of_breaks hdone hf rest]
    have hrecords : ∀ record ∈ records ++ own, WellMade record :=
      List.forall_mem_append.2 ⟨wellMade_of_progress hdone, wellMade_of_breaks hf⟩
    exact ⟨h.check, h.delimiter, rfl, hrecords⟩

omit [Judging H] in
lemma Sound.addRejection {engine : Engine H} (h : Sound engine)
    (template label options rule input : String) :
    Sound (engine.addRejection template label options rule input) := by
  refine ⟨h.check, h.delimiter, h.currentKey, ?_⟩
  rw [Engine.addRejection, List.forall_mem_append]
  refine ⟨h.records, fun record hrecord => ?_⟩
  obtain rfl := List.mem_singleton.1 hrecord
  rfl

/-- Each operation keeps an engine sound, so it is sound at every point of its use. -/
theorem sound_of_reached {settings : Settings} {registry : Registry H} {engine : Engine H}
    (h : EngineReached settings registry engine) : Sound engine := by
  induction h with
  | make h =>
    obtain ⟨hcheck, rfl⟩ := make?_eq_ok_iff.1 h
    exact ⟨hcheck, rfl, rfl, by simp⟩
  | addRule _ name id ih => exact ⟨ih.check, ih.delimiter, ih.currentKey, ih.records⟩
  | addRules _ rules ih => exact ⟨ih.check, ih.delimiter, ih.currentKey, ih.records⟩
  | addHandler _ id handler ih => exact ⟨ih.check, ih.delimiter, ih.currentKey, ih.records⟩
  | raising _ enabled ih => exact ⟨ih.check, ih.delimiter, ih.currentKey, ih.records⟩
  | withPathDelimiter _ delimiter ih => exact ⟨ih.check, rfl, ih.currentKey, ih.records⟩
  | reset _ ih => exact ⟨ih.check, ih.delimiter, rfl, by simp [Engine.reset]⟩
  | addRejection _ template label options rule input ih =>
    exact ih.addRejection template label options rule input
  | run _ run ih =>
    cases run with
    | single input rules label => exact ih.value input rules label
    | keyed input fs => exact ih.values input fs

end Soundness

section Registries

variable {H : Type} {registry other : Registry H}

lemma SameRules.resolve (h : SameRules registry other) (name : String) :
    registry.resolve name = other.resolve name := by
  unfold Registry.resolve
  rw [h.names name]
  cases other.handlerId? name with
  | none => rfl
  | some id => simp only [h.handlers id]

lemma SameRules.addRules (h : SameRules registry other) (rules : List (String × String)) :
    SameRules (registry.addRules rules) (other.addRules rules) where
  names name := by rw [handlerId?_addRules, handlerId?_addRules, h.names name]
  handlers id := by rw [handlers_addRules, handlers_addRules, h.handlers id]

/-- Names that differ in more than their letter case may be mapped in either order. -/
lemma sameRules_addRule_comm (registry : Registry H) {name name' : String}
    (h : Text.lower name ≠ Text.lower name') (id id' : String) :
    SameRules ((registry.addRule name id).addRule name' id')
      ((registry.addRule name' id').addRule name id) where
  names other := by
    simp only [handlerId?_addRule]
    by_cases hname : Text.lower name = Text.lower other
    · have hname' : Text.lower name' ≠ Text.lower other := fun heq => h (hname.trans heq.symm)
      simp only [if_neg hname', if_pos hname]
    · simp only [if_neg hname]
  handlers id := rfl

end Registries

/-- Plain rules do not look at the registry, and the document rule looks rules up in it only. -/
theorem handler_judgesByRules : JudgesByRules Handler := by
  intro settings registry other handler call value h
  change Handler.judge _ _ _ _ _ = Handler.judge _ _ _ _ _
  -- the options of the calls inside are shorter
  induction hn : call.options.length using Nat.strongRecOn generalizing settings registry other
    handler call value with
  | ind n ih =>
    cases handler with
    | plain judge => rw [Handler.judge, Handler.judge]
    | document =>
      rw [Handler.judge, Handler.judge]
      cases hparse : Target.parse settings call.options with
      | error e => rfl
      | ok target =>
        have hinner : (target.call settings).options.length < n :=
          hn ▸ Target.length_options_lt hparse
        have hrules : SameRules (registry.withSettings settings) (other.withSettings settings) := by
          rw [withSettings_eq_addRules, withSettings_eq_addRules]
          exact h.addRules settings.rules
        have hrun : ∀ item, (target.call settings).runWith settings
            (registry.withSettings settings) "" Message.defaultLabel
            (fun handler item => handler.judge { settings with raiseFailures := true }
              (registry.withSettings settings) (target.call settings) item) item =
          (target.call settings).runWith settings (other.withSettings settings) ""
            Message.defaultLabel
            (fun handler item => handler.judge { settings with raiseFailures := true }
              (other.withSettings settings) (target.call settings) item) item := by
          intro item
          apply runWith_congr (hrules.resolve _)
          intro handler
          exact ih _ hinner _ _ _ handler _ item hrules rfl
        simp only [funext hrun]

/-- An engine in use, whatever was done with it, is sound. Two engines in use with the same settings
and the same registry, or registries that know the same rules, do the same in every run: the answer,
the records and the value that is left depend on nothing that happened before. -/
theorem engines_in_use_are_sound_and_forget {H : Type} [Judging H] :
    (∀ engine : Engine H, InUse engine → Sound engine) ∧
    (∀ engine other : Engine H, InUse engine → InUse other → engine.settings = other.settings →
      engine.registry = other.registry → ∀ run : Run, run.on engine = run.on other) ∧
    (JudgesByRules H → ∀ engine other : Engine H, InUse engine → InUse other →
      engine.settings = other.settings → SameRules engine.registry other.registry →
        ∀ run : Run, (run.on engine).1 = (run.on other).1 ∧
          (run.on engine).2.rejections = (run.on other).2.rejections ∧
          (run.on engine).2.current = (run.on other).2.current) ∧
    JudgesByRules Handler := by
  have hsound : ∀ engine : Engine H, InUse engine → Sound engine := by
    rintro engine ⟨settings, registry, hreached⟩
    exact sound_of_reached hreached
  have hdelimiters : ∀ engine other : Engine H, InUse engine → InUse other →
      engine.settings = other.settings → engine.delimiter = other.delimiter := by
    intro engine other hengine hother hsettings
    rw [(hsound engine hengine).delimiter, (hsound other hother).delimiter, hsettings]
  refine ⟨hsound, ?_, ?_, handler_judgesByRules⟩
  · intro engine other hengine hother hsettings hregistry run
    have hdelimiter := hdelimiters engine other hengine hother hsettings
    exact run_eq_of_sameSetup run ⟨hsettings, hregistry, hdelimiter⟩
  · intro hjudges engine other hengine hother hsettings hrules run
    have hdelimiter := hdelimiters engine other hengine hother hsettings
    have hcalls : ∀ call ∈ run.calls engine.settings, RunsAlike engine other call := by
      intro call _ key label value
      rw [hsettings]
      apply runWith_congr (hrules.resolve call.name)
      intro handler
      exact hjudges other.settings engine.registry other.registry handler call value hrules
    obtain ⟨hanswer, hafter⟩ := run_inStep hsettings hdelimiter run hcalls
    exact ⟨hanswer, hafter.rejections, hafter.current⟩

section Sample

/-- An engine with two handlers that no name is mapped to. -/
def namelessEngine : Engine Handler where
  settings := {}
  registry :=
    { handlers := [("cast::trim", Builtin.trim), ("types::is_string", Builtin.isText)] }
  delimiter := "."
  rejections := []
  currentKey := ""
  current := .null

def namedEngine : Engine Handler :=
  (namelessEngine.addRule "trim" "cast::trim").addRule "text" "types::is_string"

/-- The engine with the names mapped in the other order. -/
def renamedEngine : Engine Handler :=
  (namelessEngine.addRule "Text" "types::is_string").addRule "TRIM" "cast::trim"

/-- The engine after a failed run, which has left a record. -/
def usedEngine : Engine Handler :=
  (Run.on (renamedEngine.raising true) (.single (.bool true) (.text "text") none)).2.raising false

lemma namelessEngine_reached :
    EngineReached namelessEngine.settings namelessEngine.registry namelessEngine :=
  .make rfl

lemma usedEngine_reached :
    EngineReached namelessEngine.settings namelessEngine.registry usedEngine :=
  .raising (.run (.raising (.addRule (.addRule namelessEngine_reached _ _) _ _) true) _) false

lemma usedEngine_sameSetup : SameSetup usedEngine renamedEngine :=
  (run_sameSetup _ (renamedEngine.raising true)).raising false

lemma usedEngine_sameRules : SameRules usedEngine.registry namedEngine.registry := by
  have htext : Text.lower "Text" = Text.lower "text" := by decide +kernel
  have htrim : Text.lower "TRIM" = Text.lower "trim" := by rfl
  have hnames : Text.lower "text" ≠ Text.lower "trim" := by
    have hlower : Text.lower "text" = "text" ∧ Text.lower "trim" = "trim" := by constructor <;> rfl
    rw [hlower.1, hlower.2]
    decide
  have hcomm := sameRules_addRule_comm namelessEngine.registry hnames "types::is_string"
    "cast::trim"
  rw [usedEngine_sameSetup.registry]
  simp only [renamedEngine, namedEngine, Engine.addRule, Registry.addRule, htext, htrim]
  exact hcomm

theorem used_engine_trims_as_the_named_one :
    InUse usedEngine ∧ InUse namedEngine ∧ usedEngine.settings = namedEngine.settings ∧
      SameRules usedEngine.registry namedEngine.registry ∧
      usedEngine.rejections.map (·.message) = ["input must be text."] ∧ Sound usedEngine ∧
      (Run.on usedEngine (.single (.text " a ") (.text "trim|text") none)).1 = .ok (.text "a") ∧
      (Run.on usedEngine (.single (.text " a ") (.text "trim|text") none)).2.rejections = [] := by
  have hused : InUse usedEngine := ⟨_, _, usedEngine_reached⟩
  have hnamed : InUse namedEngine :=
    ⟨_, _, .addRule (.addRule namelessEngine_reached _ _) _ _⟩
  have hsettings : usedEngine.settings = namedEngine.settings := usedEngine_sameSetup.settings
  obtain ⟨hsound, -, hruns, hjudges⟩ := @engines_in_use_are_sound_and_forget Handler _
  obtain ⟨hanswer, hrecords, -⟩ := hruns hjudges usedEngine namedEngine hused hnamed hsettings
    usedEngine_sameRules (.single (.text " a ") (.text "trim|text") none)
  refine ⟨hused, hnamed, hsettings, usedEngine_sameRules, ?_, hsound usedEngine hused,
    hanswer.trans ?_, hrecords.trans ?_⟩ <;> with_unfolding_all rfl

end Sample

end RuleChain.Proofs
