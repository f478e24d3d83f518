import RuleChain.Rule.Invocation

/-!
# Handlers

A handler judges a value: it may change it, and it lets the chain go on, stops it, or fails it
with a template. A plain handler is a function of its invocation and the value. The document
handler is the one that applies rules itself; its meaning is part of the evaluation of rules.
-/

namespace RuleChain

/-- What becomes of the chain after a rule. -/
inductive Outcome where
  | proceed
  | stop
  /-- No further rule runs, and the value is refused. The empty template stands for the default. -/
  | fail (template : String)
  deriving DecidableEq

/-- An outcome and the value as the rule left it. -/
structure Verdict where
  outcome : Outcome
  value : Tree

/-- The answer of a rule: a verdict, unless its options cannot be used. -/
abbrev Judgement := Except SetupError Verdict

/-- The thing that a rule name stands for. -/
inductive Handler where
  | plain (judge : Invocation → Tree → Judgement)
  | document

namespace Verdict

def proceed (value : Tree) : Verdict := ⟨.proceed, value⟩

def fail (template : String) (value : Tree) : Verdict := ⟨.fail template, value⟩

/-- Goes on if `ok` and fails with the template otherwise; the value stays. -/
def check (ok : Bool) (template : String) (value : Tree) : Verdict :=
  if ok then proceed value else fail template value

end Verdict

namespace Handler

def test (accepts : Tree → Bool) (template : String) : Handler :=
  .plain fun _ value => .ok (.check (accepts value) template value)

def transform (f : Invocation → Tree → Tree) : Handler :=
  .plain fun inv value => .ok (.proceed (f inv value))

def convert (f : Tree → Option Tree) (template : String) : Handler :=
  .plain fun _ value =>
    match f value with
    | some result => .ok (.proceed result)
    | none => .ok (.fail template value)

/-- A handler with one outcome, which may put another value in the place of the given one. -/
def always (outcome : Outcome) (replacement : Option Tree) : Handler :=
  .plain fun _ value => .ok ⟨outcome, replacement.getD value⟩

def refuseOptions (reason : String) : Handler :=
  .plain fun inv _ => .error (inv.invalid (.other reason))

/-- Whether a word is a multiple of another, and the quotient a word again. -/
def isMultiple (i divisor : Int64) : Bool :=
  divisor.toInt ≠ 0 && i.toInt % divisor.toInt = 0 &&
    i.toInt / divisor.toInt ≤ Int64.maxValue.toInt

def multipleOf (fallback : Int64) : Handler :=
  .plain fun inv value => do
    let divisor ← match inv.options.head? with
      | none => .ok fallback
      | some option =>
        match Text.readSigned? option.toList with
        | some n => .ok n
        | none => .error (inv.invalid (.other "divisor must be an integer"))
    let ok := match value with
      | .number n => n.word?.any (isMultiple · divisor)
      | _ => false
    return .check ok "%s must be a multiple of %s." value

end Handler

end RuleChain
