import RuleChain.Rule.Registry
import RuleChain.Tree.Reading

/-!
# Casts

Rules that change a value. Only the strict casts and the cast to text can refuse one.
-/

namespace RuleChain.Builtin

def integerTemplate : String := "%s must be an integer."

def numberTemplate : String := "%s must be a number."

def toInteger : Handler :=
  .convert (fun value => value.toInteger?.map .ofInt64) integerTemplate

def castInteger : Handler :=
  .transform fun _ value => .ofInt64 value.castInteger

def toFloat : Handler :=
  .convert (fun value => value.toFloat?.map fun x => .number (.float x)) numberTemplate

def toText : Handler :=
  .convert (fun value => if value.isContainer then none else some (.text value.plainText))
    "%s cannot be converted to text."

def toBoolean : Handler :=
  .transform fun _ value => .bool value.isTruthy

def onText (f : Invocation → String → String) : Handler :=
  .transform fun inv value =>
    match value with
    | .text s => .text (f inv s)
    | other => other

def trim : Handler :=
  onText fun inv s =>
    if inv.hasOptions then Text.trimWhere (inv.call.options.toList.contains ·) s else Text.trim s

def toLowercase : Handler :=
  onText fun _ s => Text.lower s

def toUppercase : Handler :=
  onText fun _ s => Text.upper s

def default : Handler :=
  .transform fun inv value => if value.isBlank then .text inv.call.options else value

end RuleChain.Builtin
