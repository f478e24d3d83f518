import RuleChain.Builtin.Bound
import RuleChain.Builtin.Cast
import RuleChain.Proofs.Interpolation
import RuleChain.Proofs.KeyedRun
import RuleChain.Proofs.NestedCheck
import RuleChain.Proofs.SplitJoin

/-!
# Nested failures

The document rule fails with the words of the first record of its check, and these words are filled
in a second time, as a template of the chain around the rule. Main statement: the words come out as
they went in. Each percent sign is doubled on the way, and nothing of the field around it, neither
label nor options nor input, can get into them.
-/

namespace RuleChain.Proofs
open Message

/-- The check that a call of the document rule makes of a value fails, with these words in its first
record. -/
structure FailsInside (settings : Settings) (registry : Registry Handler) (call : Call)
    (value : Tree) (words : String) : Prop where
  resolves : registry.resolve call.name = .ok .document
  options_ne : call.options ≠ ""
  fails : ∃ engine failure record, Engine.make? settings registry = .ok engine ∧
    ((DocumentChecker.ofEngine engine).check value (.tokens [call.options])).1 =
      .error (.failed failure) ∧
    failure.rejections.head? = some record ∧ record.message = words

lemma literalTemplate_eq (text : String) : literalTemplate text = .ofList (doubled text.toList) := by
  have hpercent : "%".toList = ['%'] := rfl
  have htwo : "%%".toList = ['%', '%'] := rfl
  rw [literalTemplate, Text.replace, hpercent, htwo, replaceChars_char, doubled]

/-- Filled in with any arguments, the template of a text is the text. -/
lemma interpolate_literalTemplate (text : String) (arguments : List String) :
    interpolate (literalTemplate text) arguments = text := by
  rw [literalTemplate_eq, interpolate_doubled]

lemma literalTemplate_ne {text : String} (h : text ≠ "") : literalTemplate text ≠ "" := by
  intro hempty
  have htext := interpolate_literalTemplate text []
  rw [hempty] at htext
  exact h (htext.symm.trans rfl)

section Calls

variable {settings : Settings} {registry : Registry Handler} {call : Call} {value : Tree}
variable {words : String}

/-- The document rule passes on the words of a failure and leaves the value as it is. -/
lemma gives_of_failsInside (h : FailsInside settings registry call value words) :
    Gives settings registry call value ⟨.fail (literalTemplate words), value⟩ := by
  obtain ⟨engine, failure, record, hmake, hcheck, hfirst, rfl⟩ := h.fails
  refine ⟨.document, h.resolves, ?_⟩
  have hjudge := judge_document_eq_check settings registry h.options_ne value
  rw [hmake] at hjudge
  simp only [hcheck, afterCheck, hfirst, Option.map_some, Option.getD_some] at hjudge
  exact hjudge

lemma message_refusal (hwords : words ≠ "") (key label : String) :
    (refusal settings key label call (literalTemplate words) value).message = words := by
  simp only [refusal, if_neg (literalTemplate_ne hwords), interpolate_literalTemplate]

end Calls

/-- A chain that comes to a call of the document rule whose check fails records the words of this
failure, character for character, under the name of the rule, and leaves the value as it was before
the call. It does so in a run on a value and at a field, whatever the label is and whatever follows
in the chain. -/
theorem nested_failure_is_recorded_verbatim {engine : Engine Handler} {rules : Chain}
    {before : List Call} {call : Call} {after : List Call} {input reached : Tree} {words : String}
    (hcalls : namedCalls engine.settings rules = before ++ call :: after)
    (hbefore : Proceeds engine.settings engine.registry before input reached)
    (hfails : FailsInside engine.settings engine.registry call reached words) (hwords : words ≠ "") :
    (∀ label, ∃ record, record.message = words ∧ record.rule = call.name ∧
      engine.value input rules label =
        (if engine.settings.raiseFailures then
            .error (.failed ⟨engine.settings.failureCode, [record]⟩)
          else .ok reached,
          { engine with rejections := [record], currentKey := "", current := reached })) ∧
    ∀ key label, engine.fieldValue key = input → ∃ record, record.message = words ∧
      record.rule = call.name ∧ record.key = key ∧
      engine.field ⟨key, rules, label⟩ =
        let written := Path.set engine.delimiter engine.current key reached
        (written.1.mapError .write, { engine with
          rejections := engine.rejections ++ [record]
          currentKey := ""
          current := written.2 }) := by
  have hends : ChainEnds engine.settings engine.registry (namedCalls engine.settings rules) input
      (.refused call (literalTemplate words) reached) := by
    rw [hcalls]
    exact .cut hbefore (.fail (gives_of_failsInside hfails)) after
  constructor
  · intro label
    exact ⟨_, message_refusal hwords "" (Message.fieldLabel label ""), rfl,
      value_of_chainEnds hends label⟩
  · intro key label hvalue
    have hfield : FieldEnds engine.settings engine.registry engine.delimiter engine.current
        ⟨key, rules, label⟩ (.refused call (literalTemplate words) reached) := by
      rw [fieldValue_eq] at hvalue
      rw [FieldEnds, hvalue]
      exact hends
    exact ⟨_, message_refusal hwords key (labelOf ⟨key, rules, label⟩), rfl, rfl,
      field_of_ends hfield⟩

section Sample

def shareEngine : Engine Handler where
  settings := {}
  registry :=
    { names := [("trim", "cast::trim"), ("isoneof", "compare::one_of"),
        ("validatejson", "json::validate")]
      handlers := [("cast::trim", Builtin.trim), ("compare::one_of", Builtin.isOneOf),
        ("json::validate", .document)] }
  delimiter := "."
  rejections := []
  currentKey := ""
  current := .null

def shares : Tree := .object [("share", .text "9%")]

/-- The allowed text looks like a percentage and a directive. -/
def oneOfCall : Call := ⟨"isOneOf", "50%%1$s", "isOneOf[50%%1$s]"⟩

def shareCall : Call :=
  ⟨"validateJson", "isOneOf(share)[50%%1$s]", "validateJson[isOneOf(share)[50%%1$s]]"⟩

/-- The engine that the document rule checks with. -/
def shareChecker : Engine Handler := nestedEngine shareEngine.settings shareEngine.registry

lemma oneOfCall_refuses :
    Gives shareChecker.settings shareChecker.registry oneOfCall (.text "9%")
      ⟨.fail "%s must be one of %s.", .text "9%"⟩ := by
  have hoptions : Invocation.options ⟨oneOfCall, shareChecker.settings⟩ = ["50%%1$s"] := by rfl
  refine ⟨Builtin.isOneOf, by rfl, ?_⟩
  simp [Judging.judge, Handler.judge, Builtin.isOneOf, hoptions, Tree.plainText, Tree.isContainer,
    Verdict.check, Verdict.fail]

/-- The record of the check. -/
def shareRecord : Rejection :=
  refusal shareChecker.settings "" Message.defaultLabel oneOfCall "%s must be one of %s." (.text "9%")

lemma shareCall_fails_inside :
    FailsInside shareEngine.settings shareEngine.registry shareCall shares
      "input must be one of 50%%1$s." := by
  have hparse : Target.parse shareChecker.settings shareCall.options =
      .ok ⟨"share", "isOneOf[50%%1$s]"⟩ := by rfl
  have hcall : Target.call shareChecker.settings ⟨"share", "isOneOf[50%%1$s]"⟩ = oneOfCall := by rfl
  have htargets : PathTokens.usual.targets shares "share" = [.text "9%"] := by rfl
  have hrun : oneOfCall.run shareChecker.settings shareChecker.registry "" Message.defaultLabel
      (.text "9%") = .ok (.reject shareRecord) := by
    rw [run_of_named rfl, gives_iff.1 oneOfCall_refuses]
    rfl
  have hdocument : shares.document? = some shares := rfl
  have hmake : Engine.make? shareEngine.settings shareEngine.registry =
      .ok ⟨shareEngine.settings, shareEngine.registry, ".", [], "", .null⟩ := rfl
  have hchecked := checkTargets_of_parse .usual shares rfl (by rfl) hparse
  rw [hcall, htargets, firstRejection, hrun] at hchecked
  have hwords : shareRecord.message = "input must be one of 50%%1$s." := by rfl
  refine ⟨by rfl, by decide, _, ⟨406, [shareRecord]⟩, shareRecord, hmake, ?_, rfl, hwords⟩
  simp only [ofEngine_of_make? hmake, DocumentChecker.check, hdocument, Chain.toTokens]
  exact hchecked

/-- The words hold a doubled percent sign and a directive for the label, which is one itself, and the
rule behind the call is not mapped. -/
theorem refused_share_is_recorded_verbatim :
    namedCalls shareEngine.settings
        (.text "trim|validateJson[isOneOf(share)[50%%1$s]]|absent") =
      [⟨"trim", "", "trim"⟩] ++ shareCall :: [⟨"absent", "", "absent"⟩] ∧
      Proceeds shareEngine.settings shareEngine.registry [⟨"trim", "", "trim"⟩] shares shares ∧
      FailsInside shareEngine.settings shareEngine.registry shareCall shares
        "input must be one of 50%%1$s." ∧
      (shareEngine.value shares (.text "trim|validateJson[isOneOf(share)[50%%1$s]]|absent")
        (some "%2$s")).2.rejections.map (fun record => (record.message, record.rule)) =
          [("input must be one of 50%%1$s.", "validateJson")] := by
  have hcalls : namedCalls shareEngine.settings
      (.text "trim|validateJson[isOneOf(share)[50%%1$s]]|absent") =
        [⟨"trim", "", "trim"⟩] ++ shareCall :: [⟨"absent", "", "absent"⟩] := by rfl
  have htrim : Gives shareEngine.settings shareEngine.registry ⟨"trim", "", "trim"⟩ shares
      ⟨.proceed, shares⟩ := ⟨Builtin.trim, by rfl, by cbv⟩
  have hbefore := Proceeds.cons htrim (.nil shares)
  obtain ⟨record, hmessage, hrule, hrun⟩ := (nested_failure_is_recorded_verbatim hcalls hbefore
    shareCall_fails_inside (by decide)).1 (some "%2$s")
  refine ⟨hcalls, hbefore, shareCall_fails_inside, ?_⟩
  rw [hrun]
  simp [hmessage, hrule, shareCall]

end Sample

end RuleChain.Proofs
