import RuleChain.Path

/-!
# Flat tables

A tree as a table from paths to leaves, and back. Leaves are scalars and empty containers.
-/

namespace RuleChain

namespace Tree

mutual

/-- The leaves below a value, in document order, each under its path behind `stem`. -/
def leaves (delimiter stem : String) : Tree → List (String × Tree)
  | .object members => memberLeaves delimiter stem members
  | .list items => itemLeaves delimiter stem 0 items
  | _ => []

def memberLeaves (delimiter stem : String) : List (String × Tree) → List (String × Tree)
  | [] => []
  | (key, value) :: members =>
    (if value.hasChildren then leaves delimiter (stem ++ key ++ delimiter) value
      else [(stem ++ key, value)]) ++ memberLeaves delimiter stem members

/-- The leaves at and below the items of a list from an index on. -/
def itemLeaves (delimiter stem : String) (i : Nat) : List Tree → List (String × Tree)
  | [] => []
  | item :: items =>
    (if item.hasChildren then leaves delimiter (stem ++ toString i ++ delimiter) item
      else [(stem ++ toString i, item)]) ++ itemLeaves delimiter stem (i + 1) items

end

end Tree

namespace Path

def flatten (delimiter : String) (data : Tree) (stem : String) : Table Tree :=
  Table.ofEntries (data.leaves delimiter stem)

/-- Puts some values at their paths, in order, until one cannot be put. -/
def setAll (delimiter : String) : List (String × Tree) → Tree → Except WriteError Tree
  | [], data => .ok data
  | (path, value) :: rest, data =>
    match set delimiter data path value with
    | (.error e, _) => .error e
    | (.ok (), data) => setAll delimiter rest data

/-- Puts each value of a table at the path that is its key, in order, into an empty object. -/
def expand (delimiter : String) (flat : Table Tree) : Except WriteError Tree :=
  setAll delimiter flat Tree.empty

end Path

end RuleChain
