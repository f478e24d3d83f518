import RuleChain.Json.Readable
import RuleChain.Text.Blank
import RuleChain.Text.Case

/-!
# Log settings

What a log shows and how: a filter, a format, the parts of a line and a service name. Settings come
from presets, from variables or from a document.
-/

namespace RuleChain.Log

inductive Format where
  | pretty
  | compact
  | json
  deriving DecidableEq

namespace Format

def name : Format → String
  | .pretty => "pretty"
  | .compact => "compact"
  | .json => "json"

def ofName? (name : String) : Option Format :=
  [pretty, compact, json].find? (·.name = name)

/-- The format of a name in any letter case, blanks around it aside; compact for any other text. -/
def ofText (text : String) : Format :=
  (ofName? (Text.lower (Text.trim text))).getD .compact

end Format

structure Display where
  time : Bool := true
  source : Bool := false
  target : Bool := true
  colors : Bool := false
  deriving DecidableEq

structure Settings where
  level : String := "info"
  format : Format := .compact
  display : Display := {}
  service : Option String := none
  deriving DecidableEq

/-- The names of the variables that settings come from. -/
structure Variables where
  level : String
  fallbackLevel : String
  format : String

namespace Settings

def ofVariables (names : Variables) (lookup : String → Option String) : Settings :=
  { level := ((lookup names.level).or (lookup names.fallbackLevel)).getD "info"
    format := ((lookup names.format).map Format.ofText).getD .compact }

/-- Settings for development: everything from debugging on, in colors and with its source. -/
def development : Settings :=
  { level := "debug", format := .pretty, display := { colors := true, source := true } }

def production : Settings :=
  { format := .json }

def test : Settings :=
  { level := "trace", display := { time := false } }

def preset? (name : String) : Option Settings :=
  if name = "development" then some development
  else if name = "production" then some production
  else if name = "test" then some test
  else if name = "default" then some {}
  else none

def toTree (s : Settings) : Tree :=
  .object [("level", .text s.level), ("format", .text s.format.name),
    ("display", .object [("time", .bool s.display.time), ("source", .bool s.display.source),
      ("target", .bool s.display.target), ("colors", .bool s.display.colors)]),
    ("service", match s.service with
      | some service => .text service
      | none => .null)]

section Reader

open Json

variable {α : Type} [Readable α]

/-- A format by its name, or as an object from its name to null. -/
def readFormat? (value : α) : Option Format :=
  match Readable.members? value with
  | some [(name, content)] => if Readable.isNull content then Format.ofName? name else none
  | some _ => none
  | none => (Readable.text? value).bind Format.ofName?

def readService? (value : α) : Option (Option String) :=
  if Readable.isNull value then some none else (Readable.text? value).map some

def flagField (name : String) (set : Display → Bool → Display) : RecordField α Display :=
  ⟨[name], fun display value => (Readable.bool? value).map (set display)⟩

def displayFields : List (RecordField α Display) := [
  flagField "time" fun d b => { d with time := b },
  flagField "source" fun d b => { d with source := b },
  flagField "target" fun d b => { d with target := b },
  flagField "colors" fun d b => { d with colors := b }]

def recordFields : List (RecordField α Settings) := [
  ⟨["level"], fun s value => (Readable.text? value).map fun level => { s with level }⟩,
  ⟨["format"], fun s value => (readFormat? value).map fun format => { s with format }⟩,
  ⟨["display"], fun s value =>
    (readRecord? displayFields true {} value).map fun display => { s with display }⟩,
  ⟨["service"], fun s value => (readService? value).map fun service => { s with service }⟩]

end Reader

/-- Reads settings from a text. Keys that are not known are passed over with their values, which
need only be spelled like a document. -/
def parse? (text : String) : Option Settings :=
  (Json.Document.parse? text).bind (Json.readRecord? recordFields true {})

end Settings

end RuleChain.Log
