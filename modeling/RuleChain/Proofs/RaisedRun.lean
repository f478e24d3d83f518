import RuleChain.Builtin.Catalog
import RuleChain.Filter
import RuleChain.Proofs.KeyedRun
import RuleChain.Proofs.NestedCheck
import RuleChain.Proofs.RunsInStep

/-!
# Raised runs

An engine can raise the rejections of a run or leave them to be asked for. Main statement: where the
rules in use judge alike in both modes, as all rules of the catalog do, the two runs are the same but
for the answer, which is the failure with all records when there are any. A filter, whatever it has
done before, therefore accepts exactly what a reporting run accepts without a record.
-/

namespace RuleChain.Proofs

section Rules

variable {H : Type} [Judging H]

/-- A handler judges alike whether rejections are raised or not. -/
def IgnoresRaising (settings : Settings) (registry : Registry H) (handler : H) : Prop :=
  ∀ enabled call value,
    Judging.judge { settings with raiseFailures := enabled } registry handler call value =
      Judging.judge settings registry handler call value

/-- What some calls resolve to judges alike whether rejections are raised or not; a blank call is
skipped and resolves to nothing. -/
def CallsIgnoreRaising (engine : Engine H) (calls : List Call) : Prop :=
  ∀ call ∈ calls, call.isBlank = false → ∀ handler,
    engine.registry.resolve call.name = .ok handler →
      IgnoresRaising engine.settings engine.registry handler

end Rules

section Catalog

variable (settings : Settings) (registry : Registry Handler)

lemma make?_raising (enabled : Bool) :
    Engine.make? { settings with raiseFailures := enabled } registry =
      (Engine.make? settings registry).map fun engine => engine.raising enabled := by
  have hcheck : Settings.check { settings with raiseFailures := enabled } = settings.check := rfl
  unfold Engine.make?
  rw [hcheck]
  cases settings.check <;> rfl

/-- A nested check is raising in both modes, so the mode does not reach the rules inside. -/
lemma document_ignoresRaising : IgnoresRaising settings registry Handler.document := by
  intro enabled call value
  change Handler.judge _ _ _ _ _ = Handler.judge _ _ _ _ _
  by_cases hoptions : call.options = ""
  · rw [Handler.judge, Handler.judge, if_pos hoptions, if_pos hoptions]
    rfl
  · rw [judge_document_eq_check _ _ hoptions, judge_document_eq_check _ _ hoptions, make?_raising]
    cases Engine.make? settings registry <;> rfl

variable {settings registry} in
lemma plain_ignoresRaising {judge : Invocation → Tree → Judgement}
    (h : ∀ enabled call value, judge ⟨call, { settings with raiseFailures := enabled }⟩ value =
      judge ⟨call, settings⟩ value) : IgnoresRaising settings registry (.plain judge) := by
  intro enabled call value
  change Handler.judge _ _ _ _ _ = Handler.judge _ _ _ _ _
  rw [Handler.judge, Handler.judge]
  exact h enabled call value

lemma catalog_ignoresRaising (scheme : PasswordScheme) :
    ∀ entry ∈ Builtin.catalog scheme, IgnoresRaising settings registry entry.2.2 := by
  have hsplit : Builtin.catalog scheme = (Builtin.catalog scheme).dropLast ++
      [("json::validate", ["validateJson"], Handler.document)] := rfl
  -- the other rules read the option delimiter of the settings and nothing else
  have hplain : ∀ entry ∈ (Builtin.catalog scheme).dropLast,
      IgnoresRaising settings registry entry.2.2 := by
    simp only [Builtin.catalog, List.dropLast, List.forall_mem_cons, List.not_mem_nil,
      false_implies, implies_true, and_true]
    and_intros <;> exact plain_ignoresRaising fun enabled call value => rfl
  rw [hsplit, List.forall_mem_append]
  exact ⟨hplain, by simpa using document_ignoresRaising settings registry⟩

end Catalog

section Answers

variable {H : Type}

@[simp] lemma raising_rejections (engine : Engine H) (enabled : Bool) :
    (engine.raising enabled).rejections = engine.rejections := rfl

@[simp] lemma raising_current (engine : Engine H) (enabled : Bool) :
    (engine.raising enabled).current = engine.current := rfl

/-- The answer that a reporting run gives if its records are raised. -/
def raised (report : Answer Tree × Engine H) : Answer Tree :=
  match report.1 with
  | .error fault => .error fault
  | .ok out =>
    if report.2.rejections = [] then .ok out else .error (.failed report.2.failure)

lemma finish_raising (engine : Engine H) :
    (engine.raising true).finish =
      raised ((engine.raising false).finish, engine.raising false) := by
  cases hrejections : engine.rejections <;>
    simp [Engine.finish, Engine.raising, Engine.failure, raised, hrejections]

/-- A raising run and the reporting run do the same and answer differently: the records are raised
as the failure, in order and with the status code, and there is a failure only if there are any. -/
structure DiffersInAnswer (code : UInt16) (loud report : Answer Tree × Engine H) : Prop where
  rejections : loud.2.rejections = report.2.rejections
  current : loud.2.current = report.2.current
  setup : ∀ e, loud.1 = .error (.setup e) ↔ report.1 = .error (.setup e)
  reported : (∃ out, report.1 = .ok out) ∨ ∃ e, report.1 = .error (.setup e)
  raises_iff : ∀ out, report.1 = .ok out →
    ((∃ failure, loud.1 = .error (.failed failure)) ↔ report.2.rejections ≠ [])
  accepts : ∀ out, report.1 = .ok out → report.2.rejections = [] → loud.1 = .ok out
  failure : ∀ failure, loud.1 = .error (.failed failure) →
    failure.rejections = report.2.rejections ∧
      failure.message = Text.join "\n" (report.2.rejections.map (·.message)) ∧
      failure.code = code

lemma differsInAnswer_raised {report : Answer Tree × Engine H}
    (hreport : (∃ out, report.1 = .ok out) ∨ ∃ e, report.1 = .error (.setup e)) :
    DiffersInAnswer report.2.settings.failureCode (raised report, report.2.raising true) report := by
  obtain ⟨answer, after⟩ := report
  obtain ⟨out, rfl⟩ | ⟨e, rfl⟩ := hreport
  · by_cases hnone : after.rejections = []
    · constructor <;> simp [raised, hnone]
    · constructor <;> simp_all [raised, Engine.failure, Failure.message, Failure.texts]
  · constructor <;> simp [raised]

lemma DiffersInAnswer.ok_iff {code : UInt16} {loud report : Answer Tree × Engine H}
    (h : DiffersInAnswer code loud report) (out : Tree) :
    loud.1 = .ok out ↔ report.1 = .ok out ∧ report.2.rejections = [] := by
  constructor
  · intro hloud
    obtain ⟨left, hreport⟩ | ⟨e, hreport⟩ := h.reported
    · by_cases hnone : report.2.rejections = []
      · have haccepted : loud.1 = .ok left := h.accepts left hreport hnone
        rw [hloud] at haccepted
        exact ⟨hreport.trans haccepted.symm, hnone⟩
      · obtain ⟨failure, hfailed⟩ := (h.raises_iff left hreport).2 hnone
        rw [hloud] at hfailed
        cases hfailed
    · have hsetup : loud.1 = .error (.setup e) := (h.setup e).2 hreport
      rw [hloud] at hsetup
      cases hsetup
  · rintro ⟨hreport, hnone⟩
    exact h.accepts out hreport hnone

end Answers

section Runs

variable {H : Type} [Judging H]

lemma run_raising {engine : Engine H} {calls : List Call} (hcalls : CallsIgnoreRaising engine calls)
    {call : Call} (hcall : call ∈ calls) (enabled : Bool) (key label : String) (value : Tree) :
    call.run (engine.raising enabled).settings engine.registry key label value =
      call.run engine.settings engine.registry key label value := by
  cases hblank : call.isBlank with
  | true => rw [run_of_blank hblank, run_of_blank hblank]
  | false =>
    rw [run_of_named hblank, run_of_named hblank]
    have hjudged : judged (engine.raising enabled).settings engine.registry call value =
        judged engine.settings engine.registry call value := by
      unfold judged
      cases hresolve : engine.registry.resolve call.name with
      | error e => rfl
      | ok handler => exact hcalls call hcall hblank handler hresolve enabled call value
    rw [hjudged]
    rfl

lemma runsAlike_raising {engine : Engine H} {calls : List Call}
    (hcalls : CallsIgnoreRaising engine calls) (enabled : Bool) :
    ∀ call ∈ calls, RunsAlike engine (engine.raising enabled) call :=
  fun _ hcall key label value => (run_raising hcalls hcall enabled key label value).symm

omit [Judging H] in
lemma raising_inStep (engine : Engine H) (enabled : Bool) :
    InStep engine (engine.raising enabled) :=
  ⟨fun _ => rfl, rfl, rfl, rfl, rfl⟩

omit [Judging H] in
/-- An engine in step with another one, set up as that one is in a mode, is that one in the mode. -/
lemma eq_raising {engine after after' : Engine H} {enabled : Bool} (h : InStep after after')
    (hsetup : SameSetup after engine) (hsetup' : SameSetup after' (engine.raising enabled)) :
    after' = after.raising enabled := by
  have hraised : InStep (after.raising enabled) after' :=
    ⟨h.calls, h.delimiter, h.rejections, h.currentKey, h.current⟩
  exact (hraised.eq ((hsetup.raising enabled).trans hsetup'.symm)).symm

lemma applyChain_raising {engine : Engine H} {calls : List Call}
    (hcalls : CallsIgnoreRaising engine calls) (enabled : Bool) (label : String) (value : Tree) :
    (engine.raising enabled).applyChain label calls value =
      ((engine.applyChain label calls value).1,
        (engine.applyChain label calls value).2.raising enabled) := by
  obtain ⟨hanswer, hafter⟩ := applyChain_inStep (raising_inStep engine enabled)
    (runsAlike_raising hcalls enabled) label value
  have hsetup := applyChain_sameSetup engine label calls value
  have hsetup' := applyChain_sameSetup (engine.raising enabled) label calls value
  exact Prod.ext hanswer.symm (eq_raising hafter hsetup hsetup')

lemma fields_raising {engine : Engine H} {fs : List Field}
    (hcalls : CallsIgnoreRaising engine (fs.flatMap fun f => f.rules.calls engine.settings))
    (enabled : Bool) :
    (engine.raising enabled).fields fs =
      ((engine.fields fs).1, (engine.fields fs).2.raising enabled) := by
  obtain ⟨hanswer, hafter⟩ := fields_inStep (raising_inStep engine enabled)
    (runsAlike_raising hcalls enabled)
  have hsetup := fields_sameSetup engine fs
  have hsetup' := fields_sameSetup (engine.raising enabled) fs
  exact Prod.ext hanswer.symm (eq_raising hafter hsetup hsetup')

/-- A raising run is the reporting run with its records raised at the end. -/
theorem run_on_raising {engine : Engine H} {run : Run}
    (hcalls : CallsIgnoreRaising engine (run.calls engine.settings)) :
    run.on (engine.raising true) =
      (raised (run.on (engine.raising false)), (run.on (engine.raising false)).2.raising true) := by
  cases run with
  | single input rules label =>
    have hreset : CallsIgnoreRaising engine.reset (rules.calls engine.settings) := hcalls
    have hchain : ∀ enabled, (engine.raising enabled).reset.applyChain (Message.fieldLabel label "")
        (rules.calls (engine.raising enabled).reset.settings) input = _ := fun enabled =>
      applyChain_raising hreset enabled (Message.fieldLabel label "") input
    simp only [Run.on, Engine.value, hchain]
    rcases engine.reset.applyChain (Message.fieldLabel label "") (rules.calls engine.settings) input
      with ⟨e | left, after⟩
    · rfl
    · exact Prod.ext (finish_raising { after with current := left }) rfl
  | keyed input fs =>
    have hstart : CallsIgnoreRaising { engine.reset with current := input }
        (fs.flatMap fun f => f.rules.calls engine.settings) := hcalls
    have hfields : ∀ enabled, Engine.fields { (engine.raising enabled).reset with current := input }
        fs = _ := fun enabled => fields_raising hstart enabled
    simp only [Run.on, Engine.values, hfields]
    rcases Engine.fields { engine.reset with current := input } fs with ⟨e | -, after⟩
    · rfl
    · exact Prod.ext (finish_raising after) rfl

/-- A reporting run gives the tree it left, unless a setup error ended it. -/
lemma report_answer (engine : Engine H) (run : Run) :
    (∃ out, (run.on (engine.raising false)).1 = .ok out) ∨
      ∃ e, (run.on (engine.raising false)).1 = .error (.setup e) := by
  have hfinish : ∀ after : Engine H, SameSetup after (engine.raising false) →
      after.finish = .ok after.current := by
    intro after hafter
    have hflag : after.settings.raiseFailures = false := by rw [hafter.settings]; rfl
    simp [Engine.finish, hflag]
  have hsetup := run_sameSetup run (engine.raising false)
  cases run with
  | single input rules label =>
    simp only [Run.on, Engine.value] at hsetup ⊢
    split
    · next e after _ => exact .inr ⟨e, rfl⟩
    · next left after hchain =>
      rw [hchain] at hsetup
      exact .inl ⟨_, hfinish _ hsetup⟩
  | keyed input fs =>
    simp only [Run.on, Engine.values] at hsetup ⊢
    split
    · next e after _ => exact .inr ⟨e, rfl⟩
    · next after hfields =>
      rw [hfields] at hsetup
      exact .inl ⟨_, hfinish _ hsetup⟩

theorem raising_differsInAnswer {engine : Engine H} {run : Run}
    (hcalls : CallsIgnoreRaising engine (run.calls engine.settings)) :
    DiffersInAnswer engine.settings.failureCode (run.on (engine.raising true))
      (run.on (engine.raising false)) := by
  have hcode : (run.on (engine.raising false)).2.settings.failureCode =
      engine.settings.failureCode := by
    rw [(run_sameSetup run (engine.raising false)).settings]
    rfl
  rw [run_on_raising hcalls, ← hcode]
  exact differsInAnswer_raised (report_answer engine run)

lemma value_failure_has_one_record {engine : Engine H} {input : Tree} {rules : Chain}
    {label : Option String} {failure : Failure}
    (h : (engine.value input rules label).1 = .error (.failed failure)) :
    ∃ rejection, failure.rejections = [rejection] := by
  obtain ⟨ending, hends, -⟩ := existsUnique_chainEnds engine.settings engine.registry
    (namedCalls engine.settings rules) input
  rw [value_of_chainEnds hends] at h
  cases ending with
  | refused call template value =>
    simp only [answerOf] at h
    split at h
    · obtain rfl : _ = failure := by simpa using h
      exact ⟨_, rfl⟩
    · cases h
  | _ => cases h

end Runs

section Filters

variable {H : Type} [Judging H]

/-- The filters that an engine is wrapped in and what becomes of them in use. -/
inductive FilterReached (engine : Engine H) : Filter H → Prop where
  | ofEngine : FilterReached engine (.ofEngine engine)
  | ofRequest (request query : Tree) : FilterReached engine (.ofRequest engine request query)
  | bindSet {filter} (h : FilterReached engine filter) (name : String) (data : Tree) :
      FilterReached engine (filter.bindSet name data)
  | value {filter} (h : FilterReached engine filter) (input : Tree) (rules : Chain) :
      FilterReached engine (filter.value input rules).2
  | values {filter} (h : FilterReached engine filter) (data : Tree)
      (keys : List (String × Chain)) : FilterReached engine (filter.values data keys).2
  | fromSet {filter} (h : FilterReached engine filter) (set key : String) (rules : Chain)
      (default : Tree) : FilterReached engine (filter.fromSet set key rules default).2

lemma filter_value_sameSetup {filter : Filter H} {engine : Engine H}
    (h : SameSetup filter.engine (engine.raising true)) (input : Tree) (rules : Chain) :
    SameSetup (filter.value input rules).2.engine (engine.raising true) :=
  (value_sameSetup (filter.engine.raising true) input rules none).trans (h.raising true)

lemma filter_collect_sameSetup {filter : Filter H} {engine : Engine H}
    (h : SameSetup filter.engine (engine.raising true)) (data : Tree)
    (keys : List (String × Chain)) (results : Table Tree) :
    SameSetup (filter.collect data results keys).2.engine (engine.raising true) := by
  induction keys generalizing filter results with
  | nil => exact h
  | cons entry rest ih =>
    obtain ⟨key, rules⟩ := entry
    rw [Filter.collect]
    split
    · exact ih h _
    · next input _ =>
      have hvalue := filter_value_sameSetup h input rules
      split
      · next fault after hrun =>
        rw [hrun] at hvalue
        exact hvalue
      · next result after hrun =>
        rw [hrun] at hvalue
        exact ih hvalue _

/-- Whatever a filter has done, its engine is set up as when it was wrapped. -/
theorem filterReached_sameSetup {engine : Engine H} {filter : Filter H}
    (h : FilterReached engine filter) : SameSetup filter.engine (engine.raising true) := by
  induction h with
  | ofEngine => exact .refl _
  | ofRequest request query => exact .refl _
  | bindSet h name data ih => exact ih
  | value h input rules ih => exact filter_value_sameSetup ih input rules
  | values h data keys ih => exact filter_collect_sameSetup ih data keys []
  | fromSet h set key rules default ih =>
    rw [Filter.fromSet]
    split
    · next input _ => exact filter_value_sameSetup ih input rules
    · exact ih

lemma filter_value_of_reached {engine : Engine H} {filter : Filter H}
    (h : FilterReached engine filter) (input : Tree) (rules : Chain) :
    (filter.value input rules).1 = ((engine.raising true).value input rules none).1 := by
  have hrun := run_eq_of_sameSetup (.single input rules none)
    ((filterReached_sameSetup h).raising true)
  exact congrArg Prod.fst hrun

lemma textEngine_ignoresRaising {calls : List Call}
    (h : ∀ call ∈ calls, call.name = "trim" ∨ call.name = "text") :
    CallsIgnoreRaising textEngine calls := by
  intro call hcall hnamed handler hresolve
  obtain hname | hname := h call hcall
  · rw [hname, resolve_trim] at hresolve
    obtain rfl := Except.ok.inj hresolve
    exact plain_ignoresRaising fun enabled call value => rfl
  · rw [hname, resolve_text] at hresolve
    obtain rfl := Except.ok.inj hresolve
    exact plain_ignoresRaising fun enabled call value => rfl

/-- Whether rejections are raised has no part in what a run does, only in its answer, if the rules
it calls judge alike in both modes, as all rules of the catalog do. A filter, whatever it has done,
fails with exactly one record, and accepts what a reporting run accepts without a record. -/
theorem raising_changes_only_the_answer (engine : Engine H) :
    (∀ settings registry scheme, ∀ entry ∈ Builtin.catalog scheme,
      IgnoresRaising settings registry entry.2.2) ∧
    (∀ run : Run, CallsIgnoreRaising engine (run.calls engine.settings) →
      DiffersInAnswer engine.settings.failureCode (run.on (engine.raising true))
        (run.on (engine.raising false))) ∧
    ∀ filter, FilterReached engine filter → ∀ input rules,
      let answer := (filter.value input rules).1
      let report := (engine.raising false).value input rules none
      (∀ failure, answer = .error (.failed failure) →
        ∃ rejection, failure.rejections = [rejection]) ∧
      (CallsIgnoreRaising engine (rules.calls engine.settings) →
        ∀ out, answer = .ok out ↔ report.1 = .ok out ∧ report.2.rejections = []) := by
  refine ⟨catalog_ignoresRaising, ?_, ?_⟩
  · intro run hcalls
    exact raising_differsInAnswer hcalls
  · intro filter hfilter input rules
    rw [filter_value_of_reached hfilter]
    constructor
    · intro failure hfailed
      exact value_failure_has_one_record hfailed
    · intro hcalls
      have hrun : CallsIgnoreRaising engine
          (Run.calls engine.settings (.single input rules none)) := hcalls
      have hdiffers := raising_differsInAnswer hrun
      exact hdiffers.ok_iff

theorem member_report_is_raised_and_name_is_accepted :
    (∃ failure, (Run.on (textEngine.raising true) (.keyed member [nameField, ageField])).1 =
        .error (.failed failure) ∧ failure.rejections.map (·.key) = ["age"]) ∧
      ((Filter.ofEngine textEngine).value (.text " Ada ") nameField.rules).1 = .ok (.text "Ada") := by
  obtain ⟨-, hruns, hfilters⟩ := raising_changes_only_the_answer textEngine
  constructor
  · have hall : Progress textEngine.settings textEngine.registry textEngine.delimiter member
        [nameField, ageField] trimmedMember _ :=
      .cons nameField_ends rfl (by rfl) (.cons ageField_ends rfl (by rfl) (.nil _))
    have hreport : Run.on (textEngine.raising false) (.keyed member [nameField, ageField]) = _ :=
      values_of_progress hall
    have hcalls : Run.calls textEngine.settings (.keyed member [nameField, ageField]) =
        [⟨"trim", "", "trim"⟩, ⟨"text", "", "text"⟩, ⟨"text", "", "text"⟩] := by rfl
    have hdiffers := hruns (.keyed member [nameField, ageField])
      (textEngine_ignoresRaising (by rw [hcalls]; decide))
    rw [hreport] at hdiffers
    obtain ⟨failure, hfailure⟩ := (hdiffers.raises_iff trimmedMember rfl).2 (by simp [Ending.records])
    refine ⟨failure, hfailure, ?_⟩
    rw [(hdiffers.failure failure hfailure).1]
    rfl
  · have hreport : (textEngine.raising false).value (.text " Ada ") nameField.rules none = _ :=
      value_of_chainEnds nameField_ends none
    have hcalls : nameField.rules.calls textEngine.settings =
        [⟨"trim", "", "trim"⟩, ⟨"text", "", "text"⟩] := by rfl
    have haccepts := (hfilters _ .ofEngine (.text " Ada ") nameField.rules).2
      (textEngine_ignoresRaising (by rw [hcalls]; decide)) (.text "Ada")
    rw [hreport] at haccepts
    exact haccepts.2 ⟨rfl, rfl⟩

end Filters

end RuleChain.Proofs
