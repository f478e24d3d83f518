import RuleChain.Builtin.Cast

/-!
# Kinds

Rules that accept values of one kind.
-/

namespace RuleChain.Builtin

def isInteger : Handler :=
  .test (·.toInteger?.isSome) integerTemplate

def isNumber : Handler :=
  .test (·.toFloat?.isSome) numberTemplate

def isText : Handler :=
  .test (·.kind = .text) "%s must be text."

def isBoolean : Handler :=
  .test (·.kind = .bool) "%s must be true or false."

def isContainer : Handler :=
  .test (·.isContainer) "%s must be an array."

end RuleChain.Builtin
