import RuleChain.Rule.Judgement

/-!
# The engine

An engine runs chains on a value or on the fields of a structured value. It keeps the rejections of
the last run and the value as that run left it. A run gives its answer and the engine after it.
-/

namespace RuleChain

/-- Settings and rules, and what the last run left. -/
structure Engine (H : Type) where
  settings : Settings
  registry : Registry H
  delimiter : String
  rejections : List Rejection
  /-- The key of the field whose chain runs, empty when none does. -/
  currentKey : String
  current : Tree

/-- A field of a run: where its value is, the rules for it, and its label, if it has one. -/
structure Field where
  key : String
  rules : Chain
  label : Option String
  deriving DecidableEq

abbrev Answer (α : Type) := Except Fault α

namespace Engine

variable {H : Type}

/-- An engine on a registry, to which the rules that the settings map are added. -/
def make? (settings : Settings) (registry : Registry H) : Except SetupError (Engine H) :=
  match settings.check with
  | .error e => .error e
  | .ok () =>
    .ok ⟨settings, registry.withSettings settings, settings.pathDelimiter, [], "", .null⟩

def reset (engine : Engine H) : Engine H :=
  { engine with rejections := [], currentKey := "", current := .null }

def addRule (engine : Engine H) (name id : String) : Engine H :=
  { engine with registry := engine.registry.addRule name id }

def addRules (engine : Engine H) (rules : List (String × String)) : Engine H :=
  { engine with registry := engine.registry.addRules rules }

def addHandler (engine : Engine H) (id : String) (handler : H) : Engine H :=
  { engine with registry := engine.registry.addHandler id handler }

def raising (engine : Engine H) (enabled : Bool) : Engine H :=
  { engine with settings := { engine.settings with raiseFailures := enabled } }

/-- Chooses the delimiter of field paths; with the empty one, keys are flat. -/
def withPathDelimiter (engine : Engine H) (delimiter : String) : Engine H :=
  { engine with settings := { engine.settings with pathDelimiter := delimiter }, delimiter }

def token? (engine : Engine H) (role : String) : Option String :=
  if role = "left" then some engine.settings.optionLeft
  else if role = "right" then some engine.settings.optionRight
  else if role = "options" then some engine.settings.optionDelimiter
  else if role = "rule" then some engine.settings.ruleDelimiter
  else none

/-- Records a rejection against the field whose chain runs. -/
def addRejection (engine : Engine H) (template label options rule input : String) : Engine H :=
  { engine with
    rejections :=
      engine.rejections ++ [.make engine.currentKey template label options rule input] }

def error (engine : Engine H) : String :=
  (engine.rejections.head?.map (·.message)).getD ""

def failure (engine : Engine H) : Failure :=
  ⟨engine.settings.failureCode, engine.rejections⟩

/-- Ends a run: the current value, or the failure if there are rejections to raise. -/
def finish (engine : Engine H) : Answer Tree :=
  if engine.settings.raiseFailures && !engine.rejections.isEmpty then
    .error (.failed engine.failure)
  else .ok engine.current

variable [Judging H]

/-- Runs calls in order on a value until one ends the chain, and records the rejection if there is
one; a rejected value stays as it was before the call. -/
def applyChain (engine : Engine H) (label : String) :
    List Call → Tree → Except SetupError Tree × Engine H
  | [], value => (.ok value, engine)
  | call :: calls, value =>
    match call.run engine.settings engine.registry engine.currentKey label value with
    | .error e => (.error e, engine)
    | .ok (.next value) => engine.applyChain label calls value
    | .ok (.halt value) => (.ok value, engine)
    | .ok (.reject rejection) =>
      (.ok value, { engine with rejections := engine.rejections ++ [rejection] })

def value (engine : Engine H) (input : Tree) (rules : Chain) (label : Option String) :
    Answer Tree × Engine H :=
  let engine := engine.reset
  match engine.applyChain (Message.fieldLabel label "") (rules.calls engine.settings) input with
  | (.error e, engine) => (.error (.setup e), engine)
  | (.ok value, engine) =>
    let engine := { engine with current := value }
    (engine.finish, engine)

/-- The value of a field: null where there is none, or the empty text where keys are flat. -/
def fieldValue (engine : Engine H) (key : String) : Tree :=
  Path.lookupD engine.delimiter engine.current key
    (if engine.delimiter = "" then .text "" else .null)

/-- Runs the chain of one field on its value and writes the result back. -/
def field (engine : Engine H) (f : Field) : Except SetupError Unit × Engine H :=
  let input := engine.fieldValue f.key
  match { engine with currentKey := f.key }.applyChain (Message.fieldLabel f.label f.key)
      (f.rules.calls engine.settings) input with
  | (.error e, engine) => (.error e, { engine with currentKey := "" })
  | (.ok value, engine) =>
    let written := Path.set engine.delimiter engine.current engine.currentKey value
    (written.1.mapError .write, { engine with currentKey := "", current := written.2 })

/-- Runs fields in order until a setup error. -/
def fields (engine : Engine H) : List Field → Except SetupError Unit × Engine H
  | [] => (.ok (), engine)
  | f :: rest =>
    match engine.field f with
    | (.error e, engine) => (.error e, engine)
    | (.ok (), engine) => engine.fields rest

/-- Runs the chains of some fields on a structured value. -/
def values (engine : Engine H) (input : Tree) (fs : List Field) : Answer Tree × Engine H :=
  match { engine.reset with current := input }.fields fs with
  | (.error e, engine) => (.error (.setup e), engine)
  | (.ok (), engine) => (engine.finish, engine)

end Engine

end RuleChain
