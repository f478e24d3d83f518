import RuleChain.Text.Blank
import RuleChain.Text.Case
import RuleChain.Tree.Printer

/-!
# Readings of values

How a value reads as text, as a number, as a truth value and as a size, and when it counts as
blank. Strict readings refuse what they cannot take exactly; lenient ones always answer.
-/

namespace RuleChain.Tree

/-- The text form of a value: texts as they are, nothing for null, the printed tree otherwise. -/
def plainText : Tree → String
  | .null => ""
  | .text s => s
  | other => other.toText

/-- Whether a value is null, a blank text or an empty container. -/
def isBlank : Tree → Bool
  | .null => true
  | .text s => Text.allBlank s
  | .list items => items.isEmpty
  | .object members => members.isEmpty
  | _ => false

/-- The trimmed texts in lower case that do not count as true. -/
def falseTexts : List String :=
  ["", "0", "false", "no", "off"]

def isTruthy : Tree → Bool
  | .null => false
  | .bool b => b
  | .number n => !n.toBinary64.isZero
  | .text s => !falseTexts.contains (Text.lower (Text.trim s))
  | .list items => !items.isEmpty
  | .object members => !members.isEmpty

/-- The signed word that a number equals or a trimmed text spells. -/
def toInteger? : Tree → Option Int64
  | .number n => n.toInt64?
  | .text s => Text.readSigned? (Text.trimChars Text.isBlank s.toList)
  | _ => none

/-- The characters of a number at the front: a sign, and digits with at most one point. -/
def numberRun (pointAllowed : Bool) : List Char → List Char
  | [] => []
  | c :: s =>
    if c.isDigit then c :: numberRun pointAllowed s
    else if c = '.' ∧ pointAllowed then c :: numberRun false s
    else []

def leadingNumber (s : List Char) : List Char :=
  match Text.trimStartChars Text.isBlank s with
  | '-' :: s => '-' :: numberRun true s
  | '+' :: s => '+' :: numberRun true s
  | s => numberRun true s

/-- The signed word that a value gives: numbers without their fraction, texts by the number they
start with, one for true, and zero for what gives none. -/
def castInteger : Tree → Int64
  | .number n => n.truncateInt64
  | .text s => ((Decimal.read? (leadingNumber s.toList)).map Decimal.toInt64).getD 0
  | .bool b => if b then 1 else 0
  | _ => 0

/-- The floating-point value nearest to a number or to the number that a trimmed text spells. -/
def toFloat? : Tree → Option Binary64
  | .number n => some n.toBinary64
  | .text s => Binary64.read? (Text.trimChars Text.isBlank s.toList)
  | _ => none

/-- The number of characters of a text or of children of a container. -/
def count? : Tree → Option Nat
  | .text s => some s.length
  | .list items => some items.length
  | .object members => some members.length
  | _ => none

/-- The number of characters in the text form of a value that is no container. -/
def textLength? (t : Tree) : Option Nat :=
  if t.isContainer then none else some t.plainText.length

end RuleChain.Tree
