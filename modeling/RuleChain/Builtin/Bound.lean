import RuleChain.Rule.Registry
import RuleChain.Tree.Reading

/-!
# Bounds

Rules that compare a value, its size or its length with options, and membership among the options.
-/

namespace RuleChain.Builtin

def numberIs (p : Binary64 → Bool) (value : Tree) : Bool :=
  value.toFloat?.any p

def isGreaterThan : Handler :=
  .plain fun inv value => do
    let limit ← inv.number 0
    return .check (numberIs (limit < ·) value) "%s must be greater than %s." value

def isLessThan : Handler :=
  .plain fun inv value => do
    let limit ← inv.number 0
    return .check (numberIs (· < limit) value) "%s must be less than %s." value

def isBetween : Handler :=
  .plain fun inv value => do
    let low ← inv.number 0
    let high ← inv.number 1
    if high < low then throw (inv.invalid .boundsReversed)
    let lowText ← inv.option 0
    let highText ← inv.option 1
    let template := s!"%s must be between {lowText} and {highText}."
    return .check (numberIs (fun x => low ≤ x && x ≤ high) value) template value

def isOneOf : Handler :=
  .plain fun inv value =>
    if inv.options.isEmpty then .error (inv.invalid .nothingAllowed)
    else
      let ok := !value.isContainer && inv.options.contains value.plainText
      .ok (.check ok "%s must be one of %s." value)

/-- Compares a size of the value, if it has one, with the option. -/
def sizeRule (size? : Tree → Option Nat) (holds : Nat → Nat → Bool) (template : String) : Handler :=
  .plain fun inv value => do
    let limit ← inv.count 0
    return .check ((size? value).any (holds · limit)) template value

/-- Containers with fewer children, and texts with fewer characters, than the option. -/
def isCountLessThan : Handler :=
  sizeRule Tree.count? (· < ·) "%s must contain fewer than %s items."

/-- Containers with more children, and texts with more characters, than the option. -/
def isCountGreaterThan : Handler :=
  sizeRule Tree.count? (· > ·) "%s must contain more than %s items."

def minLength : Handler :=
  sizeRule Tree.textLength? (· ≥ ·) "%s must be at least %s characters long."

def maxLength : Handler :=
  sizeRule Tree.textLength? (· ≤ ·) "%s must be no more than %s characters long."

def exactLength : Handler :=
  sizeRule Tree.textLength? (· == ·) "%s must be exactly %s characters long."

end RuleChain.Builtin
