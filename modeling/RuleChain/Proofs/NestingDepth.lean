import RuleChain.Proofs.NestedCheck
import RuleChain.Proofs.RunsInStep

/-!
# Depth of nested checks

The document rule runs other rules on parts of a document, and those may be document rules again.
Its recursion can be cut open: one level of it judges by a check of its own and leaves the calls in
that check to any other judging. Main statement: the calls in a check have shorter options than the
call that makes it, however the path rule is spelled and whatever the brackets and delimiters are,
so that more levels than an option text has characters never reach what lies below them. Every run
and every check therefore comes to an end.
-/

namespace RuleChain.Proofs
open DocumentChecker

/-- The document rule, called on a value, applies a call to an item: the call of the path rule in
its options, to a value at the path in the document. -/
inductive Applies (settings : Settings) (call : Call) (value : Tree) : Call → Tree → Prop where
  | intro {document target items item} (hdocument : StandsFor value document)
      (hparse : Target.parse settings call.options = .ok target)
      (hitems : Targets .usual document target.path items) (hitem : item ∈ items) :
      Applies settings call value (target.call settings) item

/-- One level of judging: the document rule makes an engine and checks its value there, and how the
rules inside that check judge is up to `deeper`. -/
@[reducible]
def oneLevel (deeper : Judging Handler) : Judging Handler where
  judge settings registry handler call value :=
    match handler with
    | .plain judge => judge ⟨call, settings⟩ value
    | .document =>
      if call.options = "" then .error (Invocation.invalid ⟨call, settings⟩ .noExpression)
      else
        match Engine.make? settings registry with
        | .error e => .error e
        | .ok engine =>
          afterCheck value
            (@check Handler deeper (ofEngine engine) value (.tokens [call.options])).1

/-- Judging with some levels of nested checks, below which `deeper` judges. -/
@[reducible]
def unrolled (deeper : Judging Handler) : Nat → Judging Handler
  | 0 => deeper
  | levels + 1 => oneLevel (unrolled deeper levels)

/-- Whatever the tokens are, the options of a call inside a check are shorter than the options of
the call that makes the check. -/
lemma length_options_of_applies {settings : Settings} {call inner : Call} {value item : Tree}
    (h : Applies settings call value inner item) : inner.options.length < call.options.length := by
  cases h with
  | intro hdocument hparse hitems hitem => exact Target.length_options_lt hparse

lemma firstRejection_congr {run run' : Tree → Except SetupError Step} {values : List Tree}
    (h : ∀ value ∈ values, run value = run' value) :
    firstRejection run values = firstRejection run' values := by
  induction values with
  | nil => rfl
  | cons value values ih =>
    have hrest := ih fun later hlater => h later (List.mem_cons_of_mem _ hlater)
    rw [firstRejection, firstRejection, h value List.mem_cons_self, hrest]

lemma firstRejection_of_nexts {run : Tree → Except SetupError Step} {values : List Tree}
    (h : ∀ value ∈ values, run value = .ok (.next value)) :
    firstRejection run values = .ok none := by
  induction values with
  | nil => rfl
  | cons value values ih =>
    rw [firstRejection, h value List.mem_cons_self]
    exact ih fun later hlater => h later (List.mem_cons_of_mem _ hlater)

/-- One level of judging depends on what is below it only in the calls that it applies. -/
lemma oneLevel_congr {settings : Settings} {registry : Registry Handler} {call : Call}
    {value : Tree} {deeper deeper' : Judging Handler}
    (h : ∀ inner item, Applies settings call value inner item → ∀ handler,
      deeper.judge (nestedEngine settings registry).settings
          (nestedEngine settings registry).registry handler inner item =
        deeper'.judge (nestedEngine settings registry).settings
          (nestedEngine settings registry).registry handler inner item) (handler : Handler) :
    (oneLevel deeper).judge settings registry handler call value =
      (oneLevel deeper').judge settings registry handler call value := by
  cases handler with
  | plain judge => rfl
  | document =>
    unfold oneLevel
    dsimp only
    split
    · rfl
    · cases hmake : Engine.make? settings registry with
      | error e => rfl
      | ok engine =>
        simp only [ofEngine_of_make? hmake, DocumentChecker.check]
        cases hdocument : value.document? with
        | none => rfl
        | some document =>
          cases hblank : Text.allBlank call.options with
          | true => simp [checkTargets, Chain.toTokens, hblank]
          | false =>
            have hraise : (nestedEngine settings registry).settings.raiseFailures = true := rfl
            cases hparse : Target.parse settings call.options with
            | error e =>
              have hinner : Target.parse (nestedEngine settings registry).settings call.options =
                  .error e := hparse
              simp [checkTargets, Chain.toTokens, hblank, hinner]
            | ok target =>
              have hitems := targets_iff.2 (rfl : PathTokens.usual.targets document target.path = _)
              have hchecked := fun judging : Judging Handler =>
                @checkTargets_of_parse Handler judging .usual document _ hraise _ _ hblank hparse
              simp only [Chain.toTokens, hchecked]
              refine congrArg (fun first => afterCheck value (answerOfFirst _ first)) ?_
              apply firstRejection_congr
              intro item hitem
              apply runWith_congr rfl
              intro handler
              have hstands := document?_eq_some_iff.1 hdocument
              exact h _ item (.intro hstands hparse hitems hitem) handler

/-- The judging of the library is its own first level. -/
lemma oneLevel_judge (settings : Settings) (registry : Registry Handler) (handler : Handler)
    (call : Call) (value : Tree) :
    (oneLevel ⟨Handler.judge⟩).judge settings registry handler call value =
      Handler.judge settings registry handler call value := by
  cases handler with
  | plain judge =>
    rw [Handler.judge]
    rfl
  | document =>
    by_cases hoptions : call.options = ""
    · rw [Handler.judge, if_pos hoptions]
      exact if_pos hoptions
    · rw [judge_document_eq_check settings registry hoptions value]
      exact if_neg hoptions

/-- A call whose options have fewer characters than there are levels is judged as in the library,
whatever lies below. -/
theorem unrolled_judge (deeper : Judging Handler) {levels : Nat} {call : Call}
    (h : call.options.length < levels) (settings : Settings) (registry : Registry Handler)
    (handler : Handler) (value : Tree) :
    (unrolled deeper levels).judge settings registry handler call value =
      Handler.judge settings registry handler call value := by
  induction levels generalizing call settings registry handler value with
  | zero => omega
  | succ levels ih =>
    rw [← oneLevel_judge]
    apply oneLevel_congr
    intro inner item happlies handler
    have hinner := length_options_of_applies happlies
    exact ih (by omega) _ _ handler item

lemma unrolled_of_oneLevel {judging : Judging Handler} (h : oneLevel judging = judging)
    (levels : Nat) : unrolled judging levels = judging := by
  induction levels with
  | zero => rfl
  | succ levels ih => rw [unrolled, ih, h]

section Judgings

variable {judging judging' : Judging Handler}

/-- Two ways of judging that agree on the calls of a run make the same run. -/
lemma run_congr {engine : Engine Handler} {run : Run}
    (h : ∀ call ∈ run.calls engine.settings, ∀ handler value,
      judging.judge engine.settings engine.registry handler call value =
        judging'.judge engine.settings engine.registry handler call value) :
    @Run.on Handler judging engine run = @Run.on Handler judging' engine run := by
  have hcalls : ∀ call ∈ run.calls engine.settings,
      @RunsAlike Handler Handler judging judging' engine engine call := by
    intro call hcall key label value
    exact runWith_congr rfl fun handler => h call hcall handler value
  have hsetup := @run_sameSetup Handler judging run engine
  have hsetup' := @run_sameSetup Handler judging' run engine
  obtain ⟨hanswer, hafter⟩ := @run_inStep Handler Handler judging judging' engine engine rfl rfl run
    hcalls
  exact Prod.ext hanswer (hafter.eq (hsetup.trans hsetup'.symm))

/-- Two ways of judging that agree on the calls of some path rules make the same check. -/
lemma check_congr {checker : DocumentChecker Handler} {rules : Chain}
    (h : ∀ expression ∈ rules.toTokens checker.engine.settings.ruleDelimiter, ∀ target,
      Target.parse checker.engine.settings expression = .ok target → ∀ handler item,
        judging.judge checker.engine.settings checker.engine.registry handler
            (target.call checker.engine.settings) item =
          judging'.judge checker.engine.settings checker.engine.registry handler
            (target.call checker.engine.settings) item) (value : Tree) :
    @check Handler judging checker value rules = @check Handler judging' checker value rules := by
  unfold check
  cases value.document? with
  | none => rfl
  | some document =>
    have hcalls : ∀ expression ∈ rules.toTokens checker.engine.settings.ruleDelimiter, ∀ target,
        Target.parse checker.engine.settings expression = .ok target →
          @RunsAlike Handler Handler judging judging' checker.engine checker.engine
            (target.call checker.engine.settings) := by
      intro expression hexpression target hparse key label item
      exact runWith_congr rfl fun handler => h expression hexpression target hparse handler item
    have hsame : InStep checker.engine checker.engine := ⟨fun _ => rfl, rfl, rfl, rfl, rfl⟩
    have hsetup := @checkTargets_sameSetup Handler judging checker.tokens document checker.engine
      (rules.toTokens checker.engine.settings.ruleDelimiter)
    have hsetup' := @checkTargets_sameSetup Handler judging' checker.tokens document checker.engine
      (rules.toTokens checker.engine.settings.ruleDelimiter)
    obtain ⟨hanswer, hafter⟩ := @checkTargets_inStep Handler Handler judging judging'
      checker.engine checker.engine hsame rfl _ hcalls checker.tokens document
    simp only [hanswer, hafter.eq (hsetup.trans hsetup'.symm)]

end Judgings

/-- Nested checks come to an end. A call that is applied inside a check has shorter options than the
call that makes the check, and the judgement of that call depends on the levels below in such calls
only. So a run in which each option text has fewer characters than there are levels, and a check by
path rules that have at most as many characters, do not depend on what lies below these levels; and
the judging of the library is the only one that is its own first level. -/
theorem nested_checks_come_to_an_end :
    (∀ settings call value inner item, Applies settings call value inner item →
      inner.options.length < call.options.length) ∧
    (∀ settings (registry : Registry Handler) call value (deeper deeper' : Judging Handler),
      (∀ inner item, Applies settings call value inner item → ∀ handler,
        deeper.judge (nestedEngine settings registry).settings
            (nestedEngine settings registry).registry handler inner item =
          deeper'.judge (nestedEngine settings registry).settings
            (nestedEngine settings registry).registry handler inner item) →
      ∀ handler, (oneLevel deeper).judge settings registry handler call value =
        (oneLevel deeper').judge settings registry handler call value) ∧
    (∀ (deeper : Judging Handler) levels (engine : Engine Handler) (run : Run),
      (∀ call ∈ run.calls engine.settings, call.options.length < levels) →
        @Run.on Handler (unrolled deeper levels) engine run =
          @Run.on Handler ⟨Handler.judge⟩ engine run) ∧
    (∀ (deeper : Judging Handler) levels (checker : DocumentChecker Handler) value (rules : Chain),
      (∀ expression ∈ rules.toTokens checker.engine.settings.ruleDelimiter,
        expression.length ≤ levels) →
          @check Handler (unrolled deeper levels) checker value rules =
            @check Handler ⟨Handler.judge⟩ checker value rules) ∧
    ∀ judging : Judging Handler, oneLevel judging = judging ↔ judging.judge = Handler.judge := by
  refine ⟨?_, ?_, ?_, ?_, ?_⟩
  · intro settings call value inner item happlies
    exact length_options_of_applies happlies
  · intro settings registry call value deeper deeper' h handler
    exact oneLevel_congr h handler
  · intro deeper levels engine run hlength
    apply run_congr
    intro call hcall handler value
    exact unrolled_judge deeper (hlength call hcall) _ _ handler value
  · intro deeper levels checker value rules hlength
    apply check_congr
    intro expression hexpression target hparse handler item
    have hinner := Target.length_options_lt hparse
    have hlength := hlength expression hexpression
    exact unrolled_judge deeper (Nat.lt_of_lt_of_le hinner hlength) _ _ handler item
  · intro judging
    constructor
    · intro hlevel
      funext settings registry handler call value
      have hjudge := unrolled_judge judging (Nat.lt_succ_self call.options.length) settings registry
        handler value
      rwa [unrolled_of_oneLevel hlevel] at hjudge
    · intro hjudge
      obtain rfl : judging = ⟨Handler.judge⟩ := congrArg Judging.mk hjudge
      refine congrArg Judging.mk ?_
      funext settings registry handler call value
      exact oneLevel_judge settings registry handler call value

section Sample

/-- The document rule accepts a document if the rule in its options goes on at every value. -/
lemma judge_document_of_nexts {settings : Settings} {registry : Registry Handler} {call : Call}
    {value : Tree} {target : Target} (hcheck : settings.check = .ok ())
    (hoptions : call.options ≠ "") (hdocument : value.document? = some value)
    (hparse : Target.parse settings call.options = .ok target)
    (hrun : ∀ item ∈ PathTokens.usual.targets value target.path,
      (target.call settings).run (nestedEngine settings registry).settings
        (nestedEngine settings registry).registry "" Message.defaultLabel item = .ok (.next item)) :
    Handler.judge settings registry .document call value = .ok (.proceed value) := by
  rw [Handler.judge, if_neg hoptions]
  simp only [hcheck, hdocument]
  split
  · rfl
  · split
    · next e hfault => simp [hparse] at hfault
    · next target' htarget =>
      obtain rfl := Except.ok.inj (hparse.symm.trans htarget)
      simp only [run_nested, firstRejection_of_nexts hrun]
      rfl

/-- Settings with tokens of two characters each. -/
def angleSettings : Settings :=
  { optionLeft := "<<", optionRight := ">>", optionDelimiter := ";;" }

def angleRegistry : Registry Handler where
  names := [("validatejson", "json::validate"), ("text", "types::is_string")]
  handlers := [("types::is_string", Builtin.isText), ("json::validate", .document)]

lemma validateJson_resolves : angleRegistry.resolve "validateJson" = .ok .document := by rfl

def angleEngine : Engine Handler :=
  ⟨angleSettings, angleRegistry, angleSettings.pathDelimiter, [], "", .null⟩

def orderNote : Tree := .object [("b", .text "x")]

def notedOrder : Tree := .object [("a", orderNote)]

/-- The options of the rule in it stand behind the delimiter, and are put in brackets. -/
def noteCall : Call :=
  .ofToken angleSettings "validateJson<<validateJson(a);;text(b)>>"

lemma noteCall_parse :
    Target.parse angleSettings noteCall.options = .ok ⟨"a", "validateJson<<text(b)>>"⟩ := by rfl

lemma noteCall_target : Target.call angleSettings ⟨"a", "validateJson<<text(b)>>"⟩ =
    ⟨"validateJson", "text(b)", "validateJson<<text(b)>>"⟩ := by rfl

lemma noteCall_applies : Applies angleSettings noteCall notedOrder
    ⟨"validateJson", "text(b)", "validateJson<<text(b)>>"⟩ orderNote := by
  have hitems : Targets .usual notedOrder "a" [orderNote] := targets_iff.2 (by rfl)
  rw [← noteCall_target]
  exact .intro (.itself rfl) noteCall_parse hitems List.mem_cons_self

lemma noteCall_judge :
    Handler.judge angleSettings angleRegistry .document noteCall notedOrder =
      .ok (.proceed notedOrder) := by
  have hresolve : (nestedEngine angleSettings angleRegistry).registry.resolve "validateJson" =
      .ok .document := validateJson_resolves
  have hnote : Handler.judge (nestedEngine angleSettings angleRegistry).settings
      (nestedEngine angleSettings angleRegistry).registry .document
        ⟨"validateJson", "text(b)", "validateJson<<text(b)>>"⟩ orderNote =
          .ok (.proceed orderNote) := by
    have hparse : Target.parse angleSettings "text(b)" = .ok ⟨"b", "text"⟩ := by rfl
    have htargets : PathTokens.usual.targets orderNote "b" = [.text "x"] := by rfl
    refine judge_document_of_nexts rfl (by decide) rfl hparse ?_
    simp only [htargets, List.mem_singleton, forall_eq]
    -- the handler is plain, but its judgement is defined by the recursion
    with_unfolding_all rfl
  have htargets : PathTokens.usual.targets notedOrder "a" = [orderNote] := by rfl
  refine judge_document_of_nexts rfl (by decide) rfl noteCall_parse ?_
  simp only [htargets, List.mem_singleton, forall_eq]
  rw [noteCall_target]
  have hnamed : Call.isBlank ⟨"validateJson", "text(b)", "validateJson<<text(b)>>"⟩ = false := by
    decide
  simp only [Call.run, Call.runWith, hnamed, hresolve, Judging.judge, hnote]
  rfl

lemma note_is_accepted :
    (Run.on angleEngine
      (.single notedOrder (.text "validateJson<<validateJson(a);;text(b)>>") none)).1 =
        .ok notedOrder := by
  have hname : noteCall.name = "validateJson" := by rfl
  have hresolve : angleRegistry.resolve noteCall.name = .ok .document :=
    hname ▸ validateJson_resolves
  have hgives : Gives angleSettings angleRegistry noteCall notedOrder ⟨.proceed, notedOrder⟩ :=
    ⟨_, hresolve, noteCall_judge⟩
  have hnamed : namedCalls angleSettings (.text "validateJson<<validateJson(a);;text(b)>>") =
      [noteCall] := by rfl
  have hends : ChainEnds angleEngine.settings angleEngine.registry
      (namedCalls angleEngine.settings (.text "validateJson<<validateJson(a);;text(b)>>"))
        notedOrder (.through notedOrder) := by
    rw [angleEngine, hnamed]
    exact .through (.cons hgives (.nil _))
  exact congrArg Prod.fst (value_of_chainEnds hends none)

/-- The call of 24 characters of options applies one with 7, and 25 levels are enough for it. -/
theorem nested_note_is_judged_in_levels :
    "text(b)".length < noteCall.options.length ∧
      ∀ deeper : Judging Handler,
        (oneLevel (unrolled deeper 24)).judge angleSettings angleRegistry .document noteCall
            notedOrder =
          .ok (.proceed notedOrder) ∧
        (@Run.on Handler (unrolled deeper 25) angleEngine
            (.single notedOrder (.text "validateJson<<validateJson(a);;text(b)>>") none)).1 =
          .ok notedOrder ∧
        @check Handler (unrolled deeper 24) (ofEngine angleEngine) notedOrder
            (.text "validateJson(a);;text(b)") =
          @check Handler ⟨Handler.judge⟩ (ofEngine angleEngine) notedOrder
            (.text "validateJson(a);;text(b)") := by
  obtain ⟨hshorter, hlevel, hruns, hchecks, hfixed⟩ := nested_checks_come_to_an_end
  have hlength : noteCall.options.length = 24 := by rfl
  refine ⟨hshorter _ _ _ _ _ noteCall_applies, fun deeper => ⟨?_, ?_, ?_⟩⟩
  · have hinner : ∀ inner item, Applies angleSettings noteCall notedOrder inner item →
        inner.options.length < 24 := by
      intro inner item happlies
      have := hshorter _ _ _ _ _ happlies
      omega
    rw [hlevel angleSettings angleRegistry noteCall notedOrder (unrolled deeper 24)
      ⟨Handler.judge⟩ fun inner item happlies handler =>
        unrolled_judge deeper (hinner inner item happlies) _ _ handler item]
    rw [(hfixed ⟨Handler.judge⟩).2 rfl]
    exact noteCall_judge
  · have hcalls : Run.calls angleSettings
        (.single notedOrder (.text "validateJson<<validateJson(a);;text(b)>>") none) =
          [noteCall] := by rfl
    rw [hruns deeper 25 angleEngine _ (by simp [angleEngine, hcalls, hlength])]
    exact note_is_accepted
  · have htokens : (Chain.text "validateJson(a);;text(b)").toTokens
        (ofEngine angleEngine).engine.settings.ruleDelimiter = ["validateJson(a);;text(b)"] := by
      rfl
    exact hchecks deeper 24 _ notedOrder _ (by rw [htokens]; decide)

end Sample

end RuleChain.Proofs
