import RuleChain.Engine

/-!
# Filters

A filter runs chains in an engine that raises rejections, on values found under literal keys of
named data sets. Where there is no value, no rule runs.
-/

namespace RuleChain

/-- An engine and the data sets that are bound. -/
structure Filter (H : Type) where
  engine : Engine H
  sets : Table Tree

namespace Filter

variable {H : Type}

/-- A filter without data sets. -/
def ofEngine (engine : Engine H) : Filter H :=
  ⟨engine.raising true, []⟩

def requestSet : String := "request"

def querySet : String := "query"

def bindSet (filter : Filter H) (name : String) (data : Tree) : Filter H :=
  { filter with sets := Table.insert filter.sets name data }

def ofRequest (engine : Engine H) (request query : Tree) : Filter H :=
  ((ofEngine engine).bindSet requestSet request).bindSet querySet query

def dataSet? (filter : Filter H) (name : String) : Option Tree :=
  Table.get? filter.sets name

/-- A set that is bound is found under its name, and the others stay as they are. -/
theorem dataSet?_bindSet (filter : Filter H) (name : String) (data : Tree) (other : String) :
    (filter.bindSet name data).dataSet? other =
      if name = other then some data else filter.dataSet? other :=
  Table.get?_insert filter.sets name data other

/-- The value under a literal key, unless it is absent or null. -/
def present? (data : Tree) (key : String) : Option Tree :=
  (Path.lookup? "" data key).filter fun value => !value.isNull

variable [Judging H]

def value (filter : Filter H) (input : Tree) (rules : Chain) : Answer Tree × Filter H :=
  let run := (filter.engine.raising true).value input rules none
  (run.1, { filter with engine := run.2 })

/-- Runs chains on the values under some keys until one fails, and collects what they give; null
stands for what is not there. -/
def collect (filter : Filter H) (data : Tree) (results : Table Tree) :
    List (String × Chain) → Answer (Table Tree) × Filter H
  | [] => (.ok results, filter)
  | (key, rules) :: rest =>
    match present? data key with
    | none => filter.collect data (Table.insert results key .null) rest
    | some input =>
      match filter.value input rules with
      | (.error fault, filter) => (.error fault, filter)
      | (.ok result, filter) => filter.collect data (Table.insert results key result) rest

def values (filter : Filter H) (data : Tree) (keys : List (String × Chain)) :
    Answer (Table Tree) × Filter H :=
  filter.collect data [] keys

/-- Runs a chain on the value under a key of a data set, or gives the default. -/
def fromSet (filter : Filter H) (set key : String) (rules : Chain) (default : Tree) :
    Answer Tree × Filter H :=
  match (filter.dataSet? set).bind (present? · key) with
  | some input => filter.value input rules
  | none => (.ok default, filter)

end Filter

end RuleChain
