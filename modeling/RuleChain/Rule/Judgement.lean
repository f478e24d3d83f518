import RuleChain.Failure
import RuleChain.Message.Wording
import RuleChain.Path.Wildcard
import RuleChain.Rule.Registry
import RuleChain.Rule.Target
import RuleChain.Tree.Reading

/-!
# Judging values

How a call and the document handler judge a value. The document handler reads its options as one
path rule and judges the values at the path with it; the options of that rule are shorter than its
own, so nested documents come to an end.
-/

namespace RuleChain

inductive Step where
  | next (value : Tree)
  | halt (value : Tree)
  | reject (rejection : Rejection)

/-- The rejection of a value by a call, with the template or the default for the empty one. -/
def Call.rejection (settings : Settings) (key label : String) (call : Call) (template : String)
    (value : Tree) : Rejection :=
  .make key (if template = "" then settings.defaultTemplate else template) label
    (Message.optionPhrase call.options settings.optionDelimiter) call.name value.plainText

def Step.ofVerdict (settings : Settings) (key label : String) (call : Call) (value : Tree)
    (verdict : Verdict) : Step :=
  match verdict.outcome with
  | .proceed => .next verdict.value
  | .stop => .halt verdict.value
  | .fail template => .reject (call.rejection settings key label template value)

/-- Runs one call on a value, where `judge` is how the call's handler judges. A blank call does
nothing. -/
def Call.runWith {H : Type} (settings : Settings) (registry : Registry H) (key label : String)
    (judge : H → Tree → Judgement) (call : Call) (value : Tree) : Except SetupError Step :=
  if call.isBlank then .ok (.next value)
  else
    match registry.resolve call.name with
    | .error e => .error e
    | .ok handler =>
      match judge handler value with
      | .error e => .error e
      | .ok verdict => .ok (.ofVerdict settings key label call value verdict)

/-- The first rejection that a run gives on some values; the values after it are not looked at. -/
def firstRejection (run : Tree → Except SetupError Step) :
    List Tree → Except SetupError (Option Rejection)
  | [] => .ok none
  | value :: values =>
    match run value with
    | .error e => .error e
    | .ok (.reject rejection) => .ok (some rejection)
    | .ok _ => firstRejection run values

namespace Tree

/-- The document that a value is or that its text spells: a list or an object. -/
def document? (value : Tree) : Option Tree :=
  let tree :=
    match value with
    | .text s => parse? s
    | other => some other
  tree.filter isContainer

end Tree

/-- The values of a document that a path rule judges: the items of a list, unless the path ends in
the wildcard, or else the one value at the path. A path without value gives null. -/
def PathTokens.targets (tokens : PathTokens) (document : Tree) (path : String) : List Tree :=
  match tokens.resolve document path .null with
  | .list items => if tokens.endsInWildcard path then [.list items] else items
  | value => [value]

def documentTemplate : String := "%s is not a valid JSON"

def documentRule : String := "validateJson"

def documentRejection (value : Tree) : Rejection :=
  .make "" documentTemplate Message.defaultLabel "" documentRule value.plainText

/-- The registry with the rules that settings map. A mapping that is in place is left alone. -/
def Registry.withSettings {H : Type} (registry : Registry H) (settings : Settings) : Registry H :=
  settings.rules.foldl (fun r rule => r.ensureRule rule.1 rule.2) registry

def literalTemplate (text : String) : String :=
  Text.replace "%" "%%" text

/-- The verdict on a document after its values were judged: it fails with the words of the first
rejection and never changes. -/
def Verdict.ofFirst (value : Tree) (first : Option Rejection) : Verdict :=
  match first with
  | none => .proceed value
  | some rejection => .fail (literalTemplate rejection.message) value

def Handler.judge (settings : Settings) (registry : Registry Handler) (handler : Handler)
    (call : Call) (value : Tree) : Judgement :=
  match handler with
  | .plain judge => judge ⟨call, settings⟩ value
  | .document =>
    if call.options = "" then .error (Invocation.invalid ⟨call, settings⟩ .noExpression)
    else
      match settings.check with
      | .error e => .error e
      | .ok () =>
        match value.document? with
        | none => .ok (.ofFirst value (some (documentRejection value)))
        | some data =>
          if Text.allBlank call.options then .ok (.proceed value)
          else
            match _parsed : Target.parse settings call.options with
            | .error e => .error e
            | .ok target =>
              let inner := target.call settings
              let nested := { settings with raiseFailures := true }
              let registry := registry.withSettings settings
              let run := inner.runWith settings registry "" Message.defaultLabel
                fun handler item => handler.judge nested registry inner item
              match firstRejection run (PathTokens.targets .usual data target.path) with
              | .error e => .error e
              | .ok first => .ok (.ofFirst value first)
termination_by call.options.length
decreasing_by exact Target.length_options_lt (by assumption)

instance : Judging Handler := ⟨Handler.judge⟩

def Call.run {H : Type} [Judging H] (settings : Settings) (registry : Registry H)
    (key label : String) (call : Call) (value : Tree) : Except SetupError Step :=
  call.runWith settings registry key label
    (fun handler value => Judging.judge settings registry handler call value) value

end RuleChain
