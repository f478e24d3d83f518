import RuleChain.Rule.Handler
import RuleChain.Text.Case
import RuleChain.Text.Quoted

/-!
# Registries

Rule names, whatever their letter case, are mapped to identifiers, and identifiers to handlers. A
name may be mapped before its handler is registered and may be mapped anew. Handlers may be of any
type whose values judge; a handler sees the settings and the registry it was found in.
-/

namespace RuleChain

/-- Rule names in lower case with identifiers, and identifiers with handlers of some type. -/
structure Registry (H : Type) where
  names : Table String := []
  handlers : Table H := []

namespace Registry

variable {H : Type}

def empty : Registry H := {}

def addRule (registry : Registry H) (name id : String) : Registry H :=
  { registry with names := Table.insert registry.names (Text.lower name) id }

def addRules (registry : Registry H) (rules : List (String × String)) : Registry H :=
  rules.foldl (fun r rule => r.addRule rule.1 rule.2) registry

def addHandler (registry : Registry H) (id : String) (handler : H) : Registry H :=
  { registry with handlers := Table.insert registry.handlers id handler }

def register (registry : Registry H) (id : String) (names : List String) (handler : H) :
    Registry H :=
  names.foldl (fun r name => r.addRule name id) (registry.addHandler id handler)

def handlerId? (registry : Registry H) (name : String) : Option String :=
  Table.get? registry.names (Text.lower name)

/-- Maps a name to an identifier, unless it is mapped to it already. -/
def ensureRule (registry : Registry H) (name id : String) : Registry H :=
  match registry.handlerId? name with
  | some current => if current = id then registry else registry.addRule name id
  | none => registry.addRule name id

def hasRule (registry : Registry H) (name : String) : Bool :=
  (registry.handlerId? name).isSome

def hasHandler (registry : Registry H) (id : String) : Bool :=
  Table.hasKey registry.handlers id

/-- The handler that a rule name stands for. -/
def resolve (registry : Registry H) (name : String) : Except SetupError H :=
  match registry.handlerId? name with
  | none => .error (.unknownRule (Text.lower name))
  | some id =>
    match Table.get? registry.handlers id with
    | none => .error (.unknownHandler (Text.lower name) id)
    | some handler => .ok handler

def ruleNames (registry : Registry H) : List String :=
  (Table.keys registry.names).mergeSort (· ≤ ·)

def handlerIds (registry : Registry H) : List String :=
  (Table.keys registry.handlers).mergeSort (· ≤ ·)

def quotedList (texts : List String) : String :=
  "[" ++ Text.join ", " (texts.map Text.quoted) ++ "]"

def describe (registry : Registry H) : String :=
  "RuleRegistry \x7b rules: " ++ quotedList registry.ruleNames ++
    ", handlers: " ++ quotedList registry.handlerIds ++ " \x7d"

end Registry

/-- How handlers of a type judge a value for a call, with the settings in force and the registry in
which the handler was found. -/
class Judging (H : Type) where
  judge (settings : Settings) (registry : Registry H) (handler : H) (call : Call) (value : Tree) :
    Judgement

end RuleChain
