import Mathlib.Data.List.DropRight
import Mathlib.Data.List.Infix
import RuleChain.Builtin.Bound
import RuleChain.Builtin.Kind
import RuleChain.Proofs.DocumentCheck
import RuleChain.Proofs.NestedCheck
import RuleChain.Proofs.PathRuleText
import RuleChain.Proofs.SplitJoin

/-!
# Expressions in nested checks

The document rule hands its options to the check as one token, and tokens are not split again. Main
statement: options that join several expressions are one path rule. Its path is the one of the first
expression, so that nothing at the paths of the others is judged.
-/

namespace RuleChain.Proofs
open RuleChain.Text

section Trimming

/-- What is behind a character that stays is trimmed by itself. -/
lemma trimEndChars_append_cons {p : Char → Bool} {c : Char} (hc : p c = false) (s t : List Char) :
    trimEndChars p (s ++ c :: t) = s ++ c :: trimEndChars p t := by
  have hfront : (c :: s.reverse).dropWhile p = c :: s.reverse := by simp [hc]
  rw [trimEndChars, trimEndChars, List.reverse_append, List.reverse_cons, List.append_assoc,
    List.singleton_append, List.dropWhile_append, hfront]
  split
  · next hblank => simp [List.isEmpty_iff.1 hblank]
  · simp

/-- A text goes on behind what is left of it. -/
lemma exists_trimStart_append {p : Char → Bool} {s : List Char} (h : trimChars p s ≠ []) :
    ∃ behind, behind <:+ s ∧
      ∀ t, trimStartChars p (s ++ t) = trimChars p s ++ (behind ++ t) := by
  obtain ⟨behind, hbehind⟩ := List.rdropWhile_prefix p (trimStartChars p s)
  have hstart : trimStartChars p s = trimChars p s ++ behind := hbehind.symm
  have hne : s.dropWhile p ≠ [] := by
    rw [← trimStartChars, hstart]
    simp [h]
  refine ⟨behind, ?_, fun t => ?_⟩
  · have hsuffix : behind <:+ trimStartChars p s := ⟨trimChars p s, hbehind⟩
    exact hsuffix.trans (List.dropWhile_suffix p)
  · rw [trimStartChars, List.dropWhile_append, if_neg (by simpa using hne), ← trimStartChars, hstart,
      List.append_assoc]

end Trimming

section Reading

variable {settings : Settings}

/-- An expression that goes on in the same line is a path rule with the same path. -/
lemma parse_append {expression : String} {target : Target}
    (h : Target.parse settings expression = .ok target) {tail : String}
    (hline : '\n' ∉ (expression ++ tail).toList) :
    ∃ token, Target.parse settings (expression ++ tail) = .ok ⟨target.path, token⟩ := by
  obtain ⟨rule, path, rest, hmade, rfl⟩ := parse_eq_ok_iff.1 h
  have hchars : trimChars isBlank expression.toList =
      rule.toList ++ '(' :: (path.toList ++ ')' :: rest.toList) := by
    have hline := congrArg String.toList hmade.line_eq
    simpa [trim, trimWhere] using hline
  obtain ⟨behind, hbehind, htrimmed⟩ :=
    exists_trimStart_append (p := isBlank) (s := expression.toList) (by simp [hchars])
  let more := trimEndChars isBlank (rest.toList ++ (behind ++ tail.toList))
  have hmore : trimChars isBlank (expression ++ tail).toList =
      rule.toList ++ '(' :: (path.toList ++ ')' :: more) := by
    have hclose : isBlank ')' = false := rfl
    rw [trimChars, String.toList_append, htrimmed, hchars]
    simpa using trimEndChars_append_cons hclose (rule.toList ++ '(' :: path.toList) _
  have hline' : '\n' ∉ more := by
    intro hmem
    have hstart := List.rdropWhile_prefix isBlank (rest.toList ++ (behind ++ tail.toList))
    have hkept := hstart.subset hmem
    rw [String.toList_append, List.mem_append, not_or] at hline
    simp only [List.mem_append] at hkept
    obtain hmem | hmem | hmem := hkept
    · exact hmade.rest_line hmem
    · exact hline.1 (hbehind.subset hmem)
    · exact hline.2 hmem
  have hmade' : MadeOf (trim (expression ++ tail)) rule path (.ofList more) := by
    refine ⟨?_, hmade.rule_ne, hmade.rule_closed, hmade.path_ne, hmade.path_closed, ?_⟩
    · rw [← String.toList_inj, trim, trimWhere, String.toList_ofList, hmore]
      simp
    · rwa [String.toList_ofList]
  exact ⟨_, parse_eq_ok_iff.2 ⟨rule, path, .ofList more, hmade', rfl⟩⟩

/-- A path rule is not blank. -/
lemma allBlank_of_parse {expression : String} {target : Target}
    (h : Target.parse settings expression = .ok target) : allBlank expression = false := by
  obtain ⟨rule, path, rest, hmade, -⟩ := parse_eq_ok_iff.1 h
  have hopen : '(' ∈ trimChars isBlank expression.toList := by
    have hmem : '(' ∈ (trim expression).toList := by simp [hmade.line_eq]
    rwa [trim, trimWhere, String.toList_ofList] at hmem
  have hstart := List.rdropWhile_prefix isBlank (trimStartChars isBlank expression.toList)
  have hmem := (List.dropWhile_suffix isBlank).subset (hstart.subset hopen)
  rw [allBlank, List.all_eq_false]
  exact ⟨'(', hmem, by decide⟩

lemma parse_join {first : String} {target : Target}
    (h : Target.parse settings first = .ok target) (sep : String) (rest : List String)
    (hline : '\n' ∉ (join sep (first :: rest)).toList) :
    ∃ token, Target.parse settings (join sep (first :: rest)) = .ok ⟨target.path, token⟩ := by
  cases rest with
  | nil =>
    exact ⟨target.rule, by rw [join_singleton, h]⟩
  | cons next rest =>
    rw [join_cons (List.cons_ne_nil next rest), String.append_assoc] at hline ⊢
    exact parse_append h hline

end Reading

section Judging

variable {settings : Settings} {registry : Registry Handler} {engine : Engine Handler}
variable {call : Call} {target : Target} {value document : Tree}

/-- What the document rule with a path rule answers is what the first rejection at the path gives. -/
lemma judge_of_parse (hmake : Engine.make? settings registry = .ok engine)
    (hparse : Target.parse settings call.options = .ok target) (hstands : StandsFor value document) :
    Handler.judge settings registry .document call value =
      (firstRejection ((target.call settings).run (nestedEngine settings registry).settings
        (nestedEngine settings registry).registry "" Message.defaultLabel)
          (PathTokens.usual.targets document target.path)).map (Verdict.ofFirst value) := by
  have hnamed := allBlank_of_parse hparse
  have hoptions : call.options ≠ "" := by
    intro hempty
    rw [hempty] at hnamed
    exact absurd hnamed (by decide)
  have hraise : (nestedEngine settings registry).settings.raiseFailures = true := rfl
  have hjudge := judge_document_eq_check settings registry hoptions value
  have hchecked := checkTargets_of_parse .usual document hraise hnamed hparse
  simp only [hmake, ofEngine_of_make? hmake, DocumentChecker.check, document?_eq_some_iff.2 hstands,
    Chain.toTokens, hchecked, afterCheck_answerOfFirst] at hjudge
  exact hjudge

/-- Values with the same things at the path of the rule are judged alike. -/
lemma outcome_eq_of_targets_eq (hmake : Engine.make? settings registry = .ok engine)
    (hparse : Target.parse settings call.options = .ok target) (hstands : StandsFor value document)
    {other document' : Tree} (hstands' : StandsFor other document')
    (htargets : PathTokens.usual.targets document target.path =
      PathTokens.usual.targets document' target.path) :
    (Handler.judge settings registry .document call value).map (·.outcome) =
      (Handler.judge settings registry .document call other).map (·.outcome) := by
  rw [judge_of_parse hmake hparse hstands, judge_of_parse hmake hparse hstands', htargets]
  rcases firstRejection _ _ with e | ⟨⟩ | record <;> rfl

end Judging

/-- The document rule checks a value with its options as the only token. With options that join
expressions this is the check by the options as a chain if there is one expression, or if the value
stands for no document. Else, if the first one is a path rule and all stand in one line, the options
are a path rule with the path of the first, and values with the same things there have the same
outcome, whatever stands at the paths of the others. -/
theorem joined_expressions_are_one_path_rule {settings : Settings} {registry : Registry Handler}
    {engine : Engine Handler} (hmake : Engine.make? settings registry = .ok engine) {call : Call}
    {first : String} {rest : List String}
    (hcall : call.options = join settings.ruleDelimiter (first :: rest))
    (hoptions : call.options ≠ "")
    (hcut : ∀ e ∈ first :: rest, ¬settings.ruleDelimiter.toList <:+: e.toList) :
    let judge := Handler.judge settings registry .document call
    let check value rules := ((DocumentChecker.ofEngine engine).check value rules).1
    (∀ value, judge value = afterCheck value (check value (.tokens [call.options]))) ∧
    (∀ value, (rest = [] ∨ ∀ document, ¬StandsFor value document) →
      judge value = afterCheck value (check value (.text call.options))) ∧
    ∀ target, Target.parse settings first = .ok target → '\n' ∉ call.options.toList →
      ∃ token, Target.parse settings call.options = .ok ⟨target.path, token⟩ ∧
        ∀ value document other document', StandsFor value document → StandsFor other document' →
          PathTokens.usual.targets document target.path =
            PathTokens.usual.targets document' target.path →
          (judge value).map (·.outcome) = (judge other).map (·.outcome) := by
  intro judge check
  have hjudge : ∀ value, judge value = afterCheck value (check value (.tokens [call.options])) := by
    intro value
    have hchecked := judge_document_eq_check settings registry hoptions value
    rwa [hmake] at hchecked
  refine ⟨hjudge, ?_, ?_⟩
  · intro value hvalue
    rw [hjudge]
    simp only [check, ofEngine_of_make? hmake, DocumentChecker.check]
    obtain rfl | hnone := hvalue
    · obtain ⟨hcheck, -⟩ := make?_eq_ok_iff.1 hmake
      have hdelimiter := (Settings.check_eq_ok_iff.1 hcheck).1
      have hsplit : split settings.ruleDelimiter call.options = [call.options] := by
        apply split_eq_singleton hdelimiter
        rw [hcall]
        simpa [join, joinChars] using hcut first (by simp)
      have htokens : Chain.toTokens (nestedEngine settings registry).settings.ruleDelimiter
          (.text call.options) = [call.options] := hsplit
      rw [htokens]
      rfl
    · have hdocument : value.document? = none := by
        rw [Option.eq_none_iff_forall_ne_some]
        exact fun document h => hnone document (document?_eq_some_iff.1 h)
      simp only [hdocument]
  · intro target htarget hline
    rw [hcall] at hline
    obtain ⟨token, hparse⟩ := parse_join htarget settings.ruleDelimiter rest hline
    rw [← hcall] at hparse
    refine ⟨token, hparse, ?_⟩
    intro value document other document' hstands hstands' htargets
    exact outcome_eq_of_targets_eq hmake hparse hstands hstands' htargets

section Sample

def ballotRegistry : Registry Handler where
  names := [("isoneof", "compare::one_of"), ("text", "types::is_string"),
    ("validatejson", "json::validate")]
  handlers := [("compare::one_of", Builtin.isOneOf), ("types::is_string", Builtin.isText),
    ("json::validate", .document)]

def ballotExpressions : List String := ["isOneOf(vote)[yes,no]", "text(note)"]

def ballotOptions : String := "isOneOf(vote)[yes,no]|text(note)"

def ballotCall : Call :=
  ⟨"validateJson", ballotOptions, "validateJson[isOneOf(vote)[yes,no]|text(note)]"⟩

/-- The note is no text. -/
def ballot : Tree := .object [("vote", .text "yes"), ("note", .bool true)]

def silentBallot : Tree := .object [("vote", .text "yes")]

def ballotEngine : Engine Handler :=
  ⟨{}, ballotRegistry.withSettings {}, ".", [], "", .null⟩

lemma ballotEngine_made : Engine.make? {} ballotRegistry = .ok ballotEngine := rfl

lemma ballotCall_options : ballotCall.options = join "|" ballotExpressions := by rfl

lemma ballotExpressions_cut : ∀ e ∈ ballotExpressions, ¬"|".toList <:+: e.toList := by decide

/-- A ballot without a note has the same outcome as one with a note that is refused. -/
theorem ballots_are_judged_without_note :
    Engine.make? {} ballotRegistry = .ok ballotEngine ∧
      ballotCall.options = join "|" ballotExpressions ∧ ballotCall.options ≠ "" ∧
      (∀ e ∈ ballotExpressions, ¬"|".toList <:+: e.toList) ∧
      (Handler.judge {} ballotRegistry .document ballotCall ballot).map (·.outcome) =
        (Handler.judge {} ballotRegistry .document ballotCall silentBallot).map (·.outcome) := by
  have hoptions : ballotCall.options ≠ "" := by decide
  have hparse : Target.parse {} "isOneOf(vote)[yes,no]" = .ok ⟨"vote", "isOneOf[yes,no]"⟩ := by rfl
  have htargets : PathTokens.usual.targets ballot "vote" =
      PathTokens.usual.targets silentBallot "vote" := by rfl
  obtain ⟨-, -, hjoined⟩ := joined_expressions_are_one_path_rule ballotEngine_made
    ballotCall_options hoptions ballotExpressions_cut
  obtain ⟨token, -, halike⟩ := hjoined _ hparse (by decide)
  exact ⟨ballotEngine_made, ballotCall_options, hoptions, ballotExpressions_cut,
    halike ballot ballot silentBallot silentBallot (.itself rfl) (.itself rfl) htargets⟩

/-- The engine that the document rule checks with. -/
def ballotChecker : Engine Handler := nestedEngine {} ballotRegistry

lemma yes_is_allowed (token : String) :
    Gives ballotChecker.settings ballotChecker.registry ⟨"isOneOf", "yes,no", token⟩ (.text "yes")
      ⟨.proceed, .text "yes"⟩ := by
  have hoptions : Invocation.options ⟨⟨"isOneOf", "yes,no", token⟩, ballotChecker.settings⟩ =
      ["yes", "no"] := by cbv
  have hresolve : ballotChecker.registry.resolve "isOneOf" = .ok Builtin.isOneOf := by rfl
  refine ⟨Builtin.isOneOf, hresolve, ?_⟩
  simp [Judging.judge, Handler.judge, Builtin.isOneOf, hoptions, Tree.plainText, Tree.isContainer,
    Verdict.check, Verdict.proceed]

lemma note_is_refused :
    Gives ballotChecker.settings ballotChecker.registry ⟨"text", "", "text"⟩ (.bool true)
      ⟨.fail "%s must be text.", .bool true⟩ :=
  ⟨Builtin.isText, by rfl, by cbv⟩

/-- The record of the note. -/
def noteRecord : Rejection :=
  refusal ballotChecker.settings "" Message.defaultLabel ⟨"text", "", "text"⟩ "%s must be text."
    (.bool true)

lemma vote_judged :
    ExpressionJudged ballotChecker.settings ballotChecker.registry .usual ballot
      "isOneOf(vote)[yes,no]" (.ok ()) := by
  have hparse : Target.parse ballotChecker.settings "isOneOf(vote)[yes,no]" =
      .ok ⟨"vote", "isOneOf[yes,no]"⟩ := by rfl
  have hcalls : namedCalls ballotChecker.settings (.tokens ["isOneOf[yes,no]"]) =
      [⟨"isOneOf", "yes,no", "isOneOf[yes,no]"⟩] := by rfl
  have hvalues : Targets .usual ballot "vote" [.text "yes"] := targets_iff.2 (by rfl)
  have hchain := ChainEnds.through (.cons (yes_is_allowed "isOneOf[yes,no]") (.nil _))
  rw [← hcalls] at hchain
  exact .judged hparse hvalues (.through (by simpa using .passes hchain))

lemma note_judged :
    ExpressionJudged ballotChecker.settings ballotChecker.registry .usual ballot
      "text(note)" (.error (.failed ⟨406, [noteRecord]⟩)) := by
  have hparse : Target.parse ballotChecker.settings "text(note)" = .ok ⟨"note", "text"⟩ := by rfl
  have hcalls : namedCalls ballotChecker.settings (.tokens ["text"]) =
      [⟨"text", "", "text"⟩] := by rfl
  have hvalues : Targets .usual ballot "note" ([] ++ .bool true :: []) := targets_iff.2 (by rfl)
  have hchain := ChainEnds.cut (.nil _) (.fail note_is_refused) []
  rw [List.nil_append, ← hcalls] at hchain
  exact .judged hparse hvalues (.cut (by simp) (.refused hchain) [])

/-- A check by the options as a chain comes to the note. -/
lemma ballot_fails_at_note :
    (DocumentChecker.check ⟨ballotChecker, .usual⟩ ballot (.text ballotOptions)).1 =
      .error (.failed ⟨406, [noteRecord]⟩) := by
  have htokens : Chain.toTokens ballotChecker.settings.ruleDelimiter (.text ballotOptions) =
      ballotExpressions := by rfl
  have hnamed : (ballotExpressions.filter fun e => !allBlank e) =
      ["isOneOf(vote)[yes,no]"] ++ "text(note)" :: [] := by rfl
  have hraise : ballotChecker.settings.raiseFailures = true := rfl
  obtain ⟨horder, -⟩ := checkTargets_judged .usual ballot hraise ballotExpressions
  rw [hnamed] at horder
  have hbefore : ∀ e ∈ ["isOneOf(vote)[yes,no]"], ExpressionJudged ballotChecker.settings
      ballotChecker.registry .usual ballot e (.ok ()) := by simpa using vote_judged
  have hstands : StandsFor ballot ballot := .itself rfl
  rw [check_of_standsFor hstands, htokens]
  exact horder.unique (.cut hbefore note_judged []) fun _ _ _ => expressionJudged_unique

/-- The rule lets the ballot through. The check by the same options as a chain fails at the note. -/
theorem note_of_ballot_is_not_judged :
    Engine.make? {} ballotRegistry = .ok ballotEngine ∧
      ballotCall.options = join "|" ballotExpressions ∧
      (∀ e ∈ ballotExpressions, ¬"|".toList <:+: e.toList) ∧
      Handler.judge {} ballotRegistry .document ballotCall ballot = .ok (.proceed ballot) ∧
      afterCheck ballot ((DocumentChecker.ofEngine ballotEngine).check ballot
        (.text ballotOptions)).1 = .ok (.fail "input must be text." ballot) := by
  have hnested : nestedEngine {} ballotRegistry = ballotChecker := rfl
  refine ⟨ballotEngine_made, ballotCall_options, ballotExpressions_cut, ?_, ?_⟩
  · have hparse : Target.parse {} ballotCall.options =
        .ok ⟨"vote", "isOneOf[yes,no]|text(note)"⟩ := by rfl
    have hcall : Target.call {} ⟨"vote", "isOneOf[yes,no]|text(note)"⟩ =
        ⟨"isOneOf", "yes,no", "isOneOf[yes,no]|text(note)"⟩ := by rfl
    have htargets : PathTokens.usual.targets ballot "vote" = [.text "yes"] := by rfl
    have hrun : Call.run ballotChecker.settings ballotChecker.registry "" Message.defaultLabel
        ⟨"isOneOf", "yes,no", "isOneOf[yes,no]|text(note)"⟩ (.text "yes") =
          .ok (.next (.text "yes")) := by
      rw [run_of_named rfl, gives_iff.1 (yes_is_allowed _)]
      rfl
    rw [judge_of_parse ballotEngine_made hparse (.itself rfl), hnested, hcall, htargets,
      firstRejection, hrun]
    rfl
  · rw [ofEngine_of_make? ballotEngine_made, hnested, ballot_fails_at_note]
    rfl

end Sample

end RuleChain.Proofs
