import RuleChain.Json.Readable
import RuleChain.Settings

/-!
# Reading settings

Settings are read from a record whose keys are all known, and are then checked.
-/

namespace RuleChain.Settings

open Json

variable {α : Type} [Readable α]

def textField (names : List String) (set : Settings → String → Settings) :
    RecordField α Settings :=
  ⟨names, fun settings value => (Readable.text? value).map (set settings)⟩

def readCode? (value : α) : Option UInt16 :=
  (Readable.integer? value).bind fun i =>
    if 0 ≤ i ∧ i < 0x10000 then some (.ofNat i.toNat) else none

def readRules? (value : α) : Option (Table String) := do
  let members ← Readable.members? value
  let entries ← members.mapM fun (key, value) => (Readable.text? value).map fun v => (key, v)
  return Table.sortedOfEntries entries

def recordFields : List (RecordField α Settings) := [
  textField ["defaultErrorMsg"] fun s v => { s with defaultTemplate := v },
  textField ["notationDelimiter"] fun s v => { s with pathDelimiter := v },
  ⟨["throwExceptionOnFailure"], fun s value =>
    (Readable.bool? value).map fun b => { s with raiseFailures := b }⟩,
  ⟨["exceptionCode"], fun s value => (readCode? value).map fun n => { s with failureCode := n }⟩,
  textField ["ruleDelimiter"] fun s v => { s with ruleDelimiter := v },
  textField ["optionLeftDelimiter", "optionLeft"] fun s v => { s with optionLeft := v },
  textField ["optionRightDelimiter", "optionRight"] fun s v => { s with optionRight := v },
  textField ["defaultOptionDelimiter"] fun s v => { s with optionDelimiter := v },
  ⟨["rules"], fun s value => (readRules? value).map fun rules => { s with rules }⟩]

def read (value : α) : Except SetupError Settings :=
  match readRecord? recordFields false {} value with
  | none => .error .invalidSettings
  | some settings =>
    match settings.check with
    | .error e => .error e
    | .ok () => .ok settings

/-- Reads settings from a text as it is spelled: no key may stand twice. -/
def parse (text : String) : Except SetupError Settings :=
  match Document.parse? text with
  | some document => read document
  | none => .error .invalidSettings

/-- Reads settings from a text by way of its tree, in which the last of a repeated key stands. -/
def parseTree (text : String) : Except SetupError Settings :=
  match Tree.parse? text with
  | some tree => read tree
  | none => .error .invalidSettings

end RuleChain.Settings
