import RuleChain.DocumentChecker
import RuleChain.Proofs.KeyedRun
import RuleChain.Proofs.PrintedTree
import RuleChain.Proofs.RunSetup
import RuleChain.Tree.Equality

/-!
# Checks of documents

A check takes its path rules in order, and for each of them the values at its path in order. It ends
at the first fault: an expression that is no path rule, a value that the rule refuses, or a rule that
cannot be used. Main statement: the answer of every checker, whatever it has checked before, is the
one that this order determines, and a value that stands for no document fails with one record.
-/

namespace RuleChain.Proofs

/-- A value stands for a document: for itself as a list or an object, or for the one its text
spells. -/
inductive StandsFor : Tree → Tree → Prop where
  | itself {document} (h : document.isContainer = true) : StandsFor document document
  | spelled {text document} (hread : Tree.parse? text = some document)
      (h : document.isContainer = true) : StandsFor (.text text) document

/-- The record of a value that stands for no document. -/
def noDocument (value : Tree) : Rejection where
  message := "input is not a valid JSON"
  key := ""
  template := "%s is not a valid JSON"
  label := "input"
  options := ""
  rule := "validateJson"
  input := value.plainText

/-- The values that a path rule judges: the items of a list, but a list as a whole if the text of its
path ends in the wildcard, and any other value by itself. A path without value gives null. -/
inductive Targets (tokens : PathTokens) (document : Tree) (path : String) : List Tree → Prop where
  | items {items} (h : tokens.resolve document path .null = .list items)
      (hend : ¬tokens.wildcard.toList <:+ path.toList) : Targets tokens document path items
  | whole {items} (h : tokens.resolve document path .null = .list items)
      (hend : tokens.wildcard.toList <:+ path.toList) : Targets tokens document path [.list items]
  | single {value} (h : tokens.resolve document path .null = value) (hkind : value.kind ≠ .list) :
      Targets tokens document path [value]

/-- Things are judged in order until the first that is at fault. -/
inductive InOrder {α : Type} (Judged : α → Answer Unit → Prop) : List α → Answer Unit → Prop where
  | through {things} (h : ∀ a ∈ things, Judged a (.ok ())) : InOrder Judged things (.ok ())
  | cut {before a fault} (hbefore : ∀ b ∈ before, Judged b (.ok ())) (h : Judged a (.error fault))
      (after : List α) : InOrder Judged (before ++ a :: after) (.error fault)

section Judging

variable {H : Type} [Judging H] (settings : Settings) (registry : Registry H)

/-- How a value is judged by a chain of one rule: it passes if the chain goes through or stops. -/
inductive ValueJudged (rule : String) (value : Tree) : Answer Unit → Prop where
  | passes {left}
      (h : ChainEnds settings registry (namedCalls settings (.tokens [rule])) value
        (.through left)) : ValueJudged rule value (.ok ())
  | stops {left}
      (h : ChainEnds settings registry (namedCalls settings (.tokens [rule])) value
        (.stopped left)) : ValueJudged rule value (.ok ())
  | refused {call template left}
      (h : ChainEnds settings registry (namedCalls settings (.tokens [rule])) value
        (.refused call template left)) :
      ValueJudged rule value (.error (.failed ⟨settings.failureCode,
        [refusal settings "" "input" call template left]⟩))
  | unusable {e}
      (h : ChainEnds settings registry (namedCalls settings (.tokens [rule])) value (.broken e)) :
      ValueJudged rule value (.error (.setup e))

/-- How an expression is judged on a document: by its rule on the values at its path, in order. -/
inductive ExpressionJudged (tokens : PathTokens) (document : Tree) (expression : String) :
    Answer Unit → Prop where
  | malformed (h : ∀ target, Target.parse settings expression ≠ .ok target) :
      ExpressionJudged tokens document expression (.error (.setup (.invalidExpression expression)))
  | judged {target values answer} (hparse : Target.parse settings expression = .ok target)
      (hvalues : Targets tokens document target.path values)
      (h : InOrder (ValueJudged settings registry target.rule) values answer) :
      ExpressionJudged tokens document expression answer

end Judging

section Order

variable {α : Type} {Judged : α → Answer Unit → Prop}

lemma inOrder_nil_iff {answer : Answer Unit} : InOrder Judged [] answer ↔ answer = .ok () := by
  constructor
  · generalize hthings : ([] : List α) = things
    rintro (h | ⟨hbefore, h, after⟩)
    · rfl
    · simp at hthings
  · rintro rfl
    exact .through (by simp)

lemma inOrder_cons_iff {a : α} {things : List α} {answer : Answer Unit} :
    InOrder Judged (a :: things) answer ↔
      (Judged a (.ok ()) ∧ InOrder Judged things answer) ∨
        ∃ fault, Judged a (.error fault) ∧ answer = .error fault := by
  constructor
  · generalize hall : a :: things = all
    rintro (h | @⟨before, b, fault, hbefore, h, after⟩)
    · subst hall
      exact .inl ⟨h a (by simp), .through fun b hb => h b (by simp [hb])⟩
    · cases before with
      | nil =>
        obtain ⟨rfl, -⟩ := List.cons.inj hall
        exact .inr ⟨fault, h, rfl⟩
      | cons first before =>
        obtain ⟨rfl, rfl⟩ := List.cons.inj hall
        exact .inl ⟨hbefore a (by simp), .cut (fun b hb => hbefore b (by simp [hb])) h after⟩
  · rintro (⟨ha, hrest⟩ | ⟨fault, ha, rfl⟩)
    · cases hrest with
      | through h => exact .through (by simpa using ⟨ha, h⟩)
      | cut hbefore h after =>
        have hall : ∀ b ∈ a :: _, Judged b (.ok ()) := List.forall_mem_cons.2 ⟨ha, hbefore⟩
        exact .cut hall h after
    · have hnone : ∀ b ∈ ([] : List α), Judged b (.ok ()) := by simp
      exact .cut hnone ha things

lemma inOrder_ok_iff {things : List α} :
    InOrder Judged things (.ok ()) ↔ ∀ a ∈ things, Judged a (.ok ()) := by
  constructor
  · rintro (h | _)
    exact h
  · exact .through

/-- Where each thing is judged in one way, so are things in order. -/
lemma InOrder.unique {things : List α} {answer other : Answer Unit}
    (h : InOrder Judged things answer) (hother : InOrder Judged things other)
    (hjudged : ∀ a x y, Judged a x → Judged a y → x = y) : answer = other := by
  induction things with
  | nil => rw [inOrder_nil_iff.1 h, inOrder_nil_iff.1 hother]
  | cons a things ih =>
    rw [inOrder_cons_iff] at h hother
    obtain ⟨ha, hrest⟩ | ⟨fault, ha, rfl⟩ := h <;>
      obtain ⟨ha', hrest'⟩ | ⟨fault', ha', rfl⟩ := hother
    · exact ih hrest hrest'
    · cases hjudged a _ _ ha ha'
    · cases hjudged a _ _ ha ha'
    · exact hjudged a _ _ ha ha'

end Order

section Documents

lemma document?_eq_some_iff {value document : Tree} :
    value.document? = some document ↔ StandsFor value document := by
  constructor
  · intro h
    obtain ⟨htree, hcontainer⟩ := Option.filter_eq_some_iff.1 h
    cases value with
    | text s => exact .spelled htree hcontainer
    | _ =>
      obtain rfl := Option.some.inj htree
      exact .itself hcontainer
  · intro h
    cases h with
    | itself h => cases value <;> simp_all [Tree.document?, Tree.isContainer]
    | spelled hread h => simp [Tree.document?, hread, h]

lemma documentRejection_eq (value : Tree) : documentRejection value = noDocument value := by
  have hmessage : Message.interpolate documentTemplate
      [Message.defaultLabel, "", documentRule, value.plainText] = "input is not a valid JSON" := by
    have hpieces : Message.pieces documentTemplate =
        .argument none .text :: " is not a valid JSON".toList.map .char := by rfl
    simp [Message.interpolate, hpieces, Message.writePieces, Message.Conversion.write,
      Message.defaultLabel]
  simp only [documentRejection, Rejection.make, hmessage]
  rfl

lemma targets_iff {tokens : PathTokens} {document : Tree} {path : String} {values : List Tree} :
    Targets tokens document path values ↔ values = tokens.targets document path := by
  have hend : tokens.endsInWildcard path = true ↔ tokens.wildcard.toList <:+ path.toList := by
    simp [PathTokens.endsInWildcard, Text.endsWith]
  unfold PathTokens.targets
  constructor
  · intro h
    cases h with
    | items h hnot => simp [h, mt hend.1 hnot]
    | whole h hwild => simp [h, hend.2 hwild]
    | @single value h hkind => cases value <;> simp_all [Tree.kind]
  · rintro rfl
    split
    · next items hresolve =>
      split
      · next hwild => exact .whole hresolve (hend.1 hwild)
      · next hwild => exact .items hresolve (mt hend.2 hwild)
    · next hlist =>
      refine .single rfl fun hkind => ?_
      cases hvalue : tokens.resolve document path .null with
      | list items => exact hlist items hvalue
      | _ => simp [hvalue, Tree.kind] at hkind

end Documents

section Checks

variable {H : Type} [Judging H]

/-- A value is judged in one way. -/
lemma valueJudged_unique {settings : Settings} {registry : Registry H} {rule : String}
    {value : Tree} {answer other : Answer Unit}
    (h : ValueJudged settings registry rule value answer)
    (hother : ValueJudged settings registry rule value other) : answer = other := by
  have unique {ending ending' : Ending}
      (h : ChainEnds settings registry (namedCalls settings (.tokens [rule])) value ending)
      (h' : ChainEnds settings registry (namedCalls settings (.tokens [rule])) value ending') :
      ending = ending' :=
    (existsUnique_chainEnds settings registry _ value).unique h h'
  cases h with
  | passes h | stops h =>
    cases hother with
    | passes h' | stops h' => rfl
    | refused h' | unusable h' => cases unique h h'
  | refused h =>
    cases hother with
    | refused h' =>
      obtain ⟨rfl, rfl, rfl⟩ := Ending.refused.inj (unique h h')
      rfl
    | passes h' | stops h' | unusable h' => cases unique h h'
  | unusable h =>
    cases hother with
    | unusable h' =>
      obtain rfl := Ending.broken.inj (unique h h')
      rfl
    | passes h' | stops h' | refused h' => cases unique h h'

lemma expressionJudged_unique {settings : Settings} {registry : Registry H} {tokens : PathTokens}
    {document : Tree} {expression : String} {answer other : Answer Unit}
    (h : ExpressionJudged settings registry tokens document expression answer)
    (hother : ExpressionJudged settings registry tokens document expression other) :
    answer = other := by
  cases h with
  | malformed h =>
    cases hother with
    | malformed h' => rfl
    | judged hparse' => exact absurd hparse' (h _)
  | judged hparse hvalues h =>
    cases hother with
    | malformed h' => exact absurd hparse (h' _)
    | judged hparse' hvalues' h' =>
      obtain rfl := Except.ok.inj (hparse.symm.trans hparse')
      obtain rfl := (targets_iff.1 hvalues).trans (targets_iff.1 hvalues').symm
      exact h.unique h' fun _ _ _ => valueJudged_unique

/-- A run on one value in a raising engine judges the value, and a failure holds the one record that
the engine keeps. -/
lemma value_judged {engine : Engine H} (hraise : engine.settings.raiseFailures = true)
    (value : Tree) (rule : String) :
    ∃ answer, ValueJudged engine.settings engine.registry rule value answer ∧
      ((∃ left, (engine.value value (.tokens [rule]) none).1 = .ok left) ∧ answer = .ok () ∨
        ∃ fault, (engine.value value (.tokens [rule]) none).1 = .error fault ∧
          answer = .error fault ∧
          ∀ failure, fault = .failed failure → failure.rejections.length = 1 ∧
            (engine.value value (.tokens [rule]) none).2.rejections = failure.rejections) := by
  obtain ⟨ending, hends, -⟩ := existsUnique_chainEnds engine.settings engine.registry
    (namedCalls engine.settings (.tokens [rule])) value
  rw [value_of_chainEnds hends]
  cases ending with
  | through left => exact ⟨_, .passes hends, .inl ⟨⟨left, rfl⟩, rfl⟩⟩
  | stopped left => exact ⟨_, .stops hends, .inl ⟨⟨left, rfl⟩, rfl⟩⟩
  | refused call template left =>
    refine ⟨_, .refused hends, .inr ⟨_, if_pos hraise, rfl, ?_⟩⟩
    rintro failure ⟨⟩
    exact ⟨rfl, rfl⟩
  | broken e =>
    refine ⟨_, .unusable hends, .inr ⟨_, rfl, rfl, ?_⟩⟩
    rintro failure ⟨⟩

open DocumentChecker

lemma checkValues_sameSetup (engine : Engine H) (rule : String) (values : List Tree) :
    SameSetup (checkValues engine rule values).2 engine := by
  induction values generalizing engine with
  | nil => exact .refl engine
  | cons value values ih =>
    have hrun := value_sameSetup engine value (.tokens [rule]) none
    rw [checkValues]
    split
    · next fault after heq =>
      rw [heq] at hrun
      exact hrun
    · next left after heq =>
      rw [heq] at hrun
      exact (ih after).trans hrun

lemma checkTargets_sameSetup (tokens : PathTokens) (document : Tree) (engine : Engine H)
    (expressions : List String) :
    SameSetup (checkTargets tokens document engine expressions).2 engine := by
  induction expressions generalizing engine with
  | nil => exact .refl engine
  | cons expression rest ih =>
    rw [checkTargets]
    split
    · exact ih engine
    · split
      · exact .refl engine
      · next target _ =>
        have hvalues := checkValues_sameSetup engine target.rule
          (tokens.targets document target.path)
        split
        · next fault after heq =>
          rw [heq] at hvalues
          exact hvalues
        · next after heq =>
          rw [heq] at hvalues
          exact (ih after).trans hvalues

/-- Values are judged in order, and a failure holds the one record that is kept. -/
lemma checkValues_judged {engine : Engine H} (hraise : engine.settings.raiseFailures = true)
    (rule : String) (values : List Tree) :
    InOrder (ValueJudged engine.settings engine.registry rule) values
        (checkValues engine rule values).1 ∧
      ∀ failure, (checkValues engine rule values).1 = .error (.failed failure) →
        failure.rejections.length = 1 ∧
          (checkValues engine rule values).2.rejections = failure.rejections := by
  induction values generalizing engine with
  | nil => exact ⟨inOrder_nil_iff.2 rfl, fun failure h => by cases h⟩
  | cons value values ih =>
    have hsetup := value_sameSetup engine value (.tokens [rule]) none
    obtain ⟨answer, hjudged, hrun⟩ := value_judged hraise value rule
    rcases heq : engine.value value (.tokens [rule]) none with ⟨result, after⟩
    rw [heq] at hsetup hrun
    obtain ⟨⟨left, hleft⟩, rfl⟩ | ⟨fault, hfault, rfl, hrecord⟩ := hrun
    · obtain rfl : result = .ok left := hleft
      have hafter : after.settings.raiseFailures = true := by rw [hsetup.settings, hraise]
      obtain ⟨horder, hrecords⟩ := ih hafter
      rw [hsetup.settings, hsetup.registry] at horder
      simp only [checkValues, heq]
      exact ⟨inOrder_cons_iff.2 (.inl ⟨hjudged, horder⟩), hrecords⟩
    · obtain rfl : result = .error fault := hfault
      simp only [checkValues, heq]
      refine ⟨inOrder_cons_iff.2 (.inr ⟨fault, hjudged, rfl⟩), fun failure hfailure => ?_⟩
      exact hrecord failure (Except.error.inj hfailure)

lemma parse_error {settings : Settings} {expression : String} {e : SetupError}
    (h : Target.parse settings expression = .error e) :
    e = .invalidExpression expression := by
  unfold Target.parse at h
  split at h
  · cases h
  · exact (Except.error.inj h).symm

/-- Expressions that are not blank are judged in order, and a failure holds the one record that is
kept. -/
lemma checkTargets_judged (tokens : PathTokens) (document : Tree) {engine : Engine H}
    (hraise : engine.settings.raiseFailures = true) (expressions : List String) :
    InOrder (ExpressionJudged engine.settings engine.registry tokens document)
        (expressions.filter fun expression => !Text.allBlank expression)
        (checkTargets tokens document engine expressions).1 ∧
      ∀ failure, (checkTargets tokens document engine expressions).1 = .error (.failed failure) →
        failure.rejections.length = 1 ∧
          (checkTargets tokens document engine expressions).2.rejections =
            failure.rejections := by
  induction expressions generalizing engine with
  | nil => exact ⟨inOrder_nil_iff.2 rfl, fun failure h => by cases h⟩
  | cons expression rest ih =>
    cases hblank : Text.allBlank expression with
    | true => simpa [checkTargets, hblank] using ih hraise
    | false =>
      simp only [checkTargets, List.filter_cons, hblank, Bool.not_false, Bool.false_eq_true, if_true,
        if_false, inOrder_cons_iff]
      cases hparse : Target.parse engine.settings expression with
      | error e =>
        obtain rfl := parse_error hparse
        have hmalformed : ∀ target, Target.parse engine.settings expression ≠ .ok target := by
          simp [hparse]
        exact ⟨.inr ⟨_, .malformed hmalformed, rfl⟩, fun failure h => by cases h⟩
      | ok target =>
        have hsetup := checkValues_sameSetup engine target.rule
          (tokens.targets document target.path)
        obtain ⟨horder, hrecords⟩ :=
          checkValues_judged hraise target.rule (tokens.targets document target.path)
        have hjudged := ExpressionJudged.judged hparse (targets_iff.2 rfl) horder
        rcases heq : checkValues engine target.rule (tokens.targets document target.path)
          with ⟨result, after⟩
        rw [heq] at hsetup hrecords hjudged
        simp only [heq]
        cases result with
        | error fault => exact ⟨.inr ⟨fault, hjudged, rfl⟩, hrecords⟩
        | ok =>
          have hafter : after.settings.raiseFailures = true := by rw [hsetup.settings, hraise]
          obtain ⟨hrest, hrecords⟩ := ih hafter
          rw [hsetup.settings, hsetup.registry] at hrest
          exact ⟨.inl ⟨hjudged, hrest⟩, hrecords⟩

/-- Expressions behind a fault have no part in a check. -/
lemma checkTargets_append_of_fault {tokens : PathTokens} {document : Tree} {engine : Engine H}
    {expressions : List String} {fault : Fault}
    (h : (checkTargets tokens document engine expressions).1 = .error fault)
    (after : List String) :
    checkTargets tokens document engine (expressions ++ after) =
      checkTargets tokens document engine expressions := by
  induction expressions generalizing engine with
  | nil => cases h
  | cons expression rest ih =>
    rw [checkTargets] at h
    rw [List.cons_append, checkTargets, checkTargets]
    cases hblank : Text.allBlank expression with
    | true =>
      simp only [hblank, if_true] at h ⊢
      exact ih h
    | false =>
      simp only [hblank, Bool.false_eq_true, if_false] at h ⊢
      cases hparse : Target.parse engine.settings expression with
      | error e => rfl
      | ok target =>
        simp only [hparse] at h ⊢
        rcases heq : checkValues engine target.rule (tokens.targets document target.path)
          with ⟨result, next⟩
        cases result with
        | error fault' => rfl
        | ok =>
          simp only [heq] at h ⊢
          exact ih h

lemma checkTargets_cut {tokens : PathTokens} {document : Tree} {engine : Engine H}
    (hraise : engine.settings.raiseFailures = true) {before : List String} {expression : String}
    {fault : Fault}
    (hbefore : ∀ e ∈ before, Text.allBlank e = true ∨
      ExpressionJudged engine.settings engine.registry tokens document e (.ok ()))
    (hnamed : Text.allBlank expression = false)
    (hfault : ExpressionJudged engine.settings engine.registry tokens document expression
      (.error fault))
    (after : List String) :
    checkTargets tokens document engine (before ++ expression :: after) =
      checkTargets tokens document engine (before ++ [expression]) := by
  obtain ⟨horder, -⟩ := checkTargets_judged tokens document hraise (before ++ [expression])
  have hfront : ∀ e ∈ before.filter fun e => !Text.allBlank e,
      ExpressionJudged engine.settings engine.registry tokens document e (.ok ()) := by
    intro e he
    obtain ⟨hmem, hnot⟩ := List.mem_filter.1 he
    exact (hbefore e hmem).resolve_left (by simpa using hnot)
  have hcut := InOrder.cut hfront hfault []
  rw [List.filter_append, List.filter_cons, hnamed] at horder
  have hanswer : (checkTargets tokens document engine (before ++ [expression])).1 = .error fault :=
    horder.unique hcut fun _ _ _ => expressionJudged_unique
  simpa using checkTargets_append_of_fault hanswer after

/-- The checkers that come of a checker on an engine by choices of tokens and by checks. -/
inductive CheckerReached : DocumentChecker H → Prop where
  | ofEngine (engine : Engine H) : CheckerReached (.ofEngine engine)
  | withTokens {checker} (h : CheckerReached checker) (tokens : PathTokens) :
      CheckerReached { checker with tokens }
  | check {checker} (h : CheckerReached checker) (value : Tree) (rules : Chain) :
      CheckerReached (checker.check value rules).2

lemma check_sameSetup (checker : DocumentChecker H) (value : Tree) (rules : Chain) :
    SameSetup (checker.check value rules).2.engine checker.engine := by
  unfold check
  split
  · exact ⟨rfl, rfl, rfl⟩
  · exact checkTargets_sameSetup _ _ _ _

/-- The engine of a checker raises rejections, whatever was checked. -/
lemma raises_of_checkerReached {checker : DocumentChecker H} (h : CheckerReached checker) :
    checker.engine.settings.raiseFailures = true := by
  induction h with
  | ofEngine engine => rfl
  | withTokens _ tokens ih => exact ih
  | check _ value rules ih => rw [(check_sameSetup _ value rules).settings, ih]

lemma check_of_standsFor {checker : DocumentChecker H} {value document : Tree}
    (h : StandsFor value document) (rules : Chain) :
    checker.check value rules =
      let run := checkTargets checker.tokens document checker.engine
        (rules.toTokens checker.engine.settings.ruleDelimiter)
      (run.1, { checker with engine := run.2 }) := by
  rw [check, document?_eq_some_iff.2 h]

/-- What a check answers, whatever the checker has checked before. A value that stands for no
document fails with one record. The text that a document without floats is printed as stands for it.
Where a value stands for a document, the expressions that are not blank are judged in order, each on
the values at its path in order: the answer is the first fault, or none if every expression is a path
rule and every value passes. A failure holds one record, and no expression behind a fault has a part
in the check. -/
theorem check_answers_first_fault {checker : DocumentChecker H} (hreached : CheckerReached checker)
    (value : Tree) (rules : Chain) :
    ((∀ document, ¬StandsFor value document) →
      (checker.check value rules).1 =
          .error (.failed ⟨checker.engine.settings.failureCode, [noDocument value]⟩) ∧
        (checker.check value rules).2.engine.rejections = [noDocument value]) ∧
    (∀ document, Printable Tree.maxDepth document → document.isContainer = true →
      value = .text document.toText → StandsFor value document) ∧
    ∀ document, StandsFor value document →
      let tokens := rules.toTokens checker.engine.settings.ruleDelimiter
      let expressions := tokens.filter fun expression => !Text.allBlank expression
      let Judged := ExpressionJudged checker.engine.settings checker.engine.registry
        checker.tokens document
      InOrder Judged expressions (checker.check value rules).1 ∧
      (∀ other, InOrder Judged expressions other → other = (checker.check value rules).1) ∧
      ((checker.check value rules).1 = .ok () ↔ ∀ e ∈ expressions, Judged e (.ok ())) ∧
      (∀ failure, (checker.check value rules).1 = .error (.failed failure) →
        failure.rejections.length = 1 ∧
          (checker.check value rules).2.engine.rejections = failure.rejections) ∧
      ∀ before expression after fault, tokens = before ++ expression :: after →
        (∀ e ∈ before, Text.allBlank e = true ∨ Judged e (.ok ())) →
        Text.allBlank expression = false → Judged expression (.error fault) →
        ∀ rules' after', rules'.toTokens checker.engine.settings.ruleDelimiter =
            before ++ expression :: after' →
          checker.check value rules' = checker.check value rules := by
  have hraise := raises_of_checkerReached hreached
  refine ⟨?_, ?_, ?_⟩
  · intro hnone
    have hdocument : value.document? = none := by
      rw [Option.eq_none_iff_forall_ne_some]
      exact fun document h => hnone document (document?_eq_some_iff.1 h)
    have hrecord := documentRejection_eq value
    rw [documentRejection] at hrecord
    simp [check, hdocument, Engine.failure, Engine.addRejection, Engine.reset, hrecord]
  · rintro document hprintable hcontainer rfl
    exact .spelled (parse?_toText hprintable) hcontainer
  · intro document hstands tokens expressions Judged
    have unique := fun {l : List String} {x y : Answer Unit} (hx : InOrder Judged l x)
      (hy : InOrder Judged l y) => hx.unique hy fun _ _ _ => expressionJudged_unique
    obtain ⟨horder, hrecords⟩ := checkTargets_judged checker.tokens document hraise tokens
    rw [check_of_standsFor hstands]
    refine ⟨horder, fun other hother => unique hother horder, ?_, hrecords, ?_⟩
    · rw [← inOrder_ok_iff]
      constructor
      · intro h
        exact h ▸ horder
      · exact fun h => unique horder h
    · intro before expression after fault htokens hbefore hblank hfault rules' after' htokens'
      rw [check_of_standsFor hstands]
      have hall : rules.toTokens checker.engine.settings.ruleDelimiter =
          before ++ expression :: after := htokens
      simp only [htokens', hall, checkTargets_cut hraise hbefore hblank hfault]

def tagged : Tree :=
  .object [("tags", .list [.text "new", .bool true, .text "old"])]

/-- The float below the one that is nearest to the numeral in `measuredText`. -/
def measure : Binary64 :=
  ⟨false, 5181919730437061 * twoPow 1025, by decide +kernel⟩

def measured : Tree :=
  .object [("tags", .list [.text "new", .number (.float measure)])]

def measuredText : String :=
  "\x7b\"tags\":[\"new\",9.204938554384977]\x7d"

/-- The spelled number is refused, though the float nearest to it is the greatest one. -/
def unreadableText : String :=
  "\x7b\"tags\":1.7976931348623158e308\x7d"

def textChecker : DocumentChecker Handler :=
  .ofEngine textEngine

lemma textChecker_calls : namedCalls textChecker.engine.settings (.tokens ["text"]) =
    [⟨"text", "", "text"⟩] := by rfl

lemma text_tag_judged (s : String) :
    ValueJudged textChecker.engine.settings textChecker.engine.registry "text" (.text s)
      (.ok ()) := by
  have hgives : Gives textChecker.engine.settings textChecker.engine.registry
      ⟨"text", "", "text"⟩ (.text s) ⟨.proceed, .text s⟩ := ⟨_, resolve_text, by cbv⟩
  have hchain := ChainEnds.through (.cons hgives (.nil _))
  rw [← textChecker_calls] at hchain
  exact .passes hchain

lemma other_tag_judged {tag : Tree} (hkind : tag.kind ≠ .text) :
    ValueJudged textChecker.engine.settings textChecker.engine.registry "text" tag
      (.error (.failed ⟨406, [refusal {} "" "input" ⟨"text", "", "text"⟩ "%s must be text."
        tag]⟩)) := by
  have hend : EndsAt textChecker.engine.settings textChecker.engine.registry ⟨"text", "", "text"⟩
      tag (.refused ⟨"text", "", "text"⟩ "%s must be text." tag) := text_refuses hkind
  have hchain := ChainEnds.cut (.nil tag) hend []
  rw [List.nil_append, ← textChecker_calls] at hchain
  exact .refused hchain

/-- The second tag is refused if it is no text. -/
lemma tags_judged {second : Tree} (hkind : second.kind ≠ .text) (others : List Tree) :
    ExpressionJudged textChecker.engine.settings textChecker.engine.registry textChecker.tokens
      (.object [("tags", .list (.text "new" :: second :: others))]) "text(tags)"
      (.error (.failed ⟨406,
        [refusal {} "" "input" ⟨"text", "", "text"⟩ "%s must be text." second]⟩)) := by
  have hparse : Target.parse textChecker.engine.settings "text(tags)" = .ok ⟨"tags", "text"⟩ := by
    rfl
  have hvalues : Targets textChecker.tokens
      (.object [("tags", .list (.text "new" :: second :: others))]) "tags"
      ([.text "new"] ++ second :: others) := targets_iff.2 (by rfl)
  have hbefore : ∀ value ∈ [Tree.text "new"], ValueJudged textChecker.engine.settings
      textChecker.engine.registry "text" value (.ok ()) := by simpa using text_tag_judged "new"
  exact .judged hparse hvalues (.cut hbefore (other_tag_judged hkind) _)

lemma tagged_printable : Printable Tree.maxDepth tagged := by
  have htags : Printable 126 (.list [.text "new", .bool true, .text "old"]) := by
    refine .list fun item hitem => ?_
    simp only [List.mem_cons, List.not_mem_nil, or_false] at hitem
    obtain rfl | rfl | rfl := hitem
    · exact .text _ _
    · exact .bool _ _
    · exact .text _ _
  exact .object (by decide) (by simpa using htags)

lemma measured_spelled : StandsFor (.text measuredText) measured :=
  .spelled (by decide +kernel) rfl

/-- A number that is refused makes a text no document. -/
lemma not_standsFor_unreadable (document : Tree) : ¬StandsFor (.text unreadableText) document := by
  intro h
  have hread : Tree.parse? unreadableText = none := by decide +kernel
  cases h with
  | itself h => cases h
  | spelled h =>
    rw [hread] at h
    cases h

lemma expressions_named : (Chain.toTokens textChecker.engine.settings.ruleDelimiter
    (.tokens [" ", "text(tags)", "absent(tags)"])).filter (fun e => !Text.allBlank e) =
      [] ++ "text(tags)" :: ["absent(tags)"] := by rfl

/-- The second tag is refused; the third one and the rule that is not mapped are not tried. So it
goes in a document that is given as its text. A text that spells no document fails by itself. -/
theorem tagged_fails_at_second_tag :
    CheckerReached textChecker ∧ StandsFor tagged tagged ∧
      StandsFor (.text tagged.toText) tagged ∧
      (textChecker.check tagged (.tokens [" ", "text(tags)", "absent(tags)"])).1 =
        .error (.failed ⟨406, [refusal {} "" "input" ⟨"text", "", "text"⟩ "%s must be text."
          (.bool true)]⟩) ∧
      StandsFor (.text measuredText) measured ∧
      (textChecker.check (.text measuredText) (.tokens [" ", "text(tags)", "absent(tags)"])).1 =
        .error (.failed ⟨406, [refusal {} "" "input" ⟨"text", "", "text"⟩ "%s must be text."
          (.number (.float measure))]⟩) ∧
      (∀ document, ¬StandsFor (.text unreadableText) document) ∧
      (textChecker.check (.text unreadableText) (.tokens ["text(tags)"])).1 =
        .error (.failed ⟨406, [noDocument (.text unreadableText)]⟩) := by
  have hreached : CheckerReached textChecker := .ofEngine textEngine
  have hstands : StandsFor tagged tagged := .itself rfl
  obtain ⟨-, -, h⟩ := check_answers_first_fault hreached tagged
    (.tokens [" ", "text(tags)", "absent(tags)"])
  obtain ⟨-, hunique, -⟩ := h tagged hstands
  obtain ⟨-, hprinted, -⟩ := check_answers_first_fault hreached (.text tagged.toText)
    (.tokens [" ", "text(tags)", "absent(tags)"])
  obtain ⟨-, -, h⟩ := check_answers_first_fault hreached (.text measuredText)
    (.tokens [" ", "text(tags)", "absent(tags)"])
  obtain ⟨-, hspelled, -⟩ := h measured measured_spelled
  obtain ⟨h, -⟩ :=
    check_answers_first_fault hreached (.text unreadableText) (.tokens ["text(tags)"])
  obtain ⟨hnone, -⟩ := h not_standsFor_unreadable
  refine ⟨hreached, hstands, hprinted tagged tagged_printable rfl rfl, (hunique _ ?_).symm,
    measured_spelled, (hspelled _ ?_).symm, not_standsFor_unreadable, hnone⟩
  · rw [expressions_named]
    exact .cut (by simp) (tags_judged (by decide) _) _
  · rw [expressions_named]
    exact .cut (by simp) (tags_judged (by decide) _) _

end Checks

end RuleChain.Proofs
