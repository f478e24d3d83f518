import RuleChain.Text.Case
import RuleChain.Text.Search

/-!
# Wording

How labels and options read in a message.
-/

namespace RuleChain.Message

def defaultLabel : String := "input"

/-- The label of a field: the one given, or else its key with spaces for underscores, in lower
case. -/
def fieldLabel (label : Option String) (key : String) : String :=
  match label with
  | some label => label
  | none => if key = "" then defaultLabel else Text.lower (Text.replace "_" " " key)

/-- Options as a phrase: a space follows each delimiter, and the last delimiter reads as "or". -/
def optionPhrase (options delimiter : String) : String :=
  if delimiter = "" ∨ !Text.occurs delimiter options then options
  else
    let joiner := delimiter ++ " "
    let spaced := Text.replace delimiter joiner options
    match Text.cutLast? joiner spaced with
    | some (before, last) => before ++ " or " ++ last
    | none => spaced

end RuleChain.Message
