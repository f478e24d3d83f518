import RuleChain.Number.Decimal
import RuleChain.Rule.Call

/-!
# Invocations

How a rule was invoked: its call and the settings in force. Options are split, and read as numbers,
on demand; an option that cannot be read is a setup error and not a refusal of the value.
-/

namespace RuleChain

structure Invocation where
  call : Call
  settings : Settings
  deriving DecidableEq

namespace Invocation

def hasOptions (inv : Invocation) : Bool :=
  inv.call.options ≠ ""

/-- The options, split at the delimiter and trimmed; none for the empty text. -/
def options (inv : Invocation) : List String :=
  if inv.call.options = "" then []
  else (Text.split inv.settings.optionDelimiter inv.call.options).map Text.trim

def invalid (inv : Invocation) (problem : OptionProblem) : SetupError :=
  .invalidOption inv.call.name inv.call.options problem

/-- The option at an index, which must be there and not be empty. -/
def option (inv : Invocation) (i : Nat) : Except SetupError String :=
  match inv.options[i]? with
  | some option => if option = "" then .error (inv.invalid (.missing (i + 1))) else .ok option
  | none => .error (inv.invalid (.missing (i + 1)))

def number (inv : Invocation) (i : Nat) : Except SetupError Binary64 := do
  let option ← inv.option i
  match Binary64.read? option.toList with
  | some x => return x
  | none => throw (inv.invalid (.notANumber option))

def count (inv : Invocation) (i : Nat) : Except SetupError Nat := do
  let option ← inv.option i
  match Text.readCount? option.toList with
  | some n => return n
  | none => throw (inv.invalid (.notACount option))

end Invocation

end RuleChain
