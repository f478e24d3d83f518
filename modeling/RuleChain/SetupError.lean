import RuleChain.Path

/-!
# Setup errors

Errors of the rules themselves, not of the values they judge: they end a run at once.
-/

namespace RuleChain

inductive TokenRole where
  | rule
  | leftOption
  | rightOption
  | option
  deriving DecidableEq

def TokenRole.name : TokenRole → String
  | .rule => "rule"
  | .leftOption => "left option"
  | .rightOption => "right option"
  | .option => "option"

inductive OptionProblem where
  | missing (number : Nat)
  | notANumber (option : String)
  | notACount (option : String)
  | boundsReversed
  | nothingAllowed
  | noPasswordHash
  | malformedPasswordHash
  | noExpression
  | other (reason : String)
  deriving DecidableEq

def OptionProblem.reason : OptionProblem → String
  | .missing number => s!"expected option #{number}"
  | .notANumber option => s!"'{option}' is not a number"
  | .notACount option => s!"'{option}' is not a non-negative integer"
  | .boundsReversed => "lower bound exceeds upper bound"
  | .nothingAllowed => "expected at least one allowed value"
  | .noPasswordHash => "expected a password hash"
  | .malformedPasswordHash => "malformed password hash"
  | .noExpression => "expected rule(path) expressions"
  | .other reason => reason

/-- Why a run of rules cannot be set up or carried on. -/
inductive SetupError where
  | unknownRule (name : String)
  | unknownHandler (rule handler : String)
  | invalidOption (rule options : String) (problem : OptionProblem)
  | emptyDelimiter (role : TokenRole)
  | invalidExpression (expression : String)
  | invalidSettings
  /-- A result cannot be written back. -/
  | write (error : WriteError)
  deriving DecidableEq

def SetupError.message : SetupError → String
  | .unknownRule name => s!"Unknown Rule or Filter \"{name}\"."
  | .unknownHandler rule handler => s!"Unknown handler \"{handler}\" for rule \"{rule}\"."
  | .invalidOption rule options problem =>
    s!"Invalid options \"{options}\" for rule \"{rule}\": {problem.reason}"
  | .emptyDelimiter role => s!"The {role.name} delimiter must not be an empty string."
  | .invalidExpression expression => s!"Invalid rule expression \"{expression}\""
  | .invalidSettings => "Invalid configuration"
  | .write error => error.message

end RuleChain
