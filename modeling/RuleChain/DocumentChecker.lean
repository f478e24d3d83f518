import RuleChain.Engine

/-!
# Checking documents

A checker judges the values of a document by path rules, in an engine that raises rejections. It
stops at the first fault.
-/

namespace RuleChain

/-- An engine and the tokens of its paths. -/
structure DocumentChecker (H : Type) where
  engine : Engine H
  tokens : PathTokens

namespace DocumentChecker

variable {H : Type}

def ofEngine (engine : Engine H) : DocumentChecker H :=
  ⟨engine.raising true, .usual⟩

variable [Judging H]

def checkValues (engine : Engine H) (rule : String) : List Tree → Answer Unit × Engine H
  | [] => (.ok (), engine)
  | value :: values =>
    match engine.value value (.tokens [rule]) none with
    | (.error fault, engine) => (.error fault, engine)
    | (.ok _, engine) => checkValues engine rule values

/-- Judges a document by path rules in order until a fault. Blank expressions say nothing. -/
def checkTargets (tokens : PathTokens) (document : Tree) (engine : Engine H) :
    List String → Answer Unit × Engine H
  | [] => (.ok (), engine)
  | expression :: rest =>
    if Text.allBlank expression then checkTargets tokens document engine rest
    else
      match Target.parse engine.settings expression with
      | .error e => (.error (.setup e), engine)
      | .ok target =>
        match checkValues engine target.rule (tokens.targets document target.path) with
        | (.error fault, engine) => (.error fault, engine)
        | (.ok (), engine) => checkTargets tokens document engine rest

/-- Judges a value, which is a document or the text of one, by path rules. -/
def check (checker : DocumentChecker H) (value : Tree) (rules : Chain) :
    Answer Unit × DocumentChecker H :=
  match value.document? with
  | none =>
    let engine := checker.engine.reset.addRejection documentTemplate Message.defaultLabel ""
      documentRule value.plainText
    (.error (.failed engine.failure), { checker with engine })
  | some document =>
    let expressions := rules.toTokens checker.engine.settings.ruleDelimiter
    let run := checkTargets checker.tokens document checker.engine expressions
    (run.1, { checker with engine := run.2 })

end DocumentChecker

end RuleChain
