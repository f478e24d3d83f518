import RuleChain.Rule.Registry
import RuleChain.Text.Email
import RuleChain.Text.Letter
import RuleChain.Tree.Reading

/-!
# Content

Rules on the characters of a text, and rules on presence.
-/

namespace RuleChain.Builtin

def textIs (p : List Char → Bool) : Tree → Bool
  | .text s => p s.toList
  | _ => false

/-- Whether there is at least one character and all have some property. -/
def someAndAll (p : Char → Bool) (s : List Char) : Bool :=
  !s.isEmpty && s.all p

def isEmail : Handler :=
  .test (textIs Text.isEmail) "%s must be a valid email address."

def isAlpha : Handler :=
  .test (textIs (someAndAll Text.isLetter)) "%s may only contain letters."

/-- Texts of letters and numbers, and whole numbers that are not negative. -/
def isAlphaNumeric : Handler :=
  .test
    (fun value =>
      match value with
      | .number n => n.isCount
      | other => textIs (someAndAll Text.isLetterOrNumber) other)
    "%s may only contain letters and numbers."

def required : Handler :=
  .test (!·.isBlank) "%s is required."

/-- Whether a value is false, zero or the text of a zero. -/
def isNought : Tree → Bool
  | .bool b => !b
  | .number n => n.toBinary64.isZero
  | .text s => Text.trim s == "0"
  | _ => false

def notEmpty : Handler :=
  .test (fun value => !(value.isBlank || isNought value)) "%s must not be empty."

def allowEmpty : Handler :=
  .plain fun _ value => .ok ⟨if value.isBlank then .stop else .proceed, value⟩

end RuleChain.Builtin
