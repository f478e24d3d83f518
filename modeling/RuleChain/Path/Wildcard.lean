import RuleChain.Path

/-!
# Wildcard paths

A path may name many places: the wildcard token stands for any one key or index. Matches come in
document order, and a single match stands for itself.
-/

namespace RuleChain

inductive TokenError where
  | emptyDelimiter
  | emptyWildcard
  deriving DecidableEq

def TokenError.message : TokenError → String
  | .emptyDelimiter => "The delimiter must not be an empty string."
  | .emptyWildcard => "The wildcard must not be an empty string."

/-- The place of a child in its parent. -/
inductive ChildKey where
  | name (key : String)
  | index (i : Nat)
  deriving DecidableEq

def Tree.children : Tree → List (ChildKey × Tree)
  | .object members => members.map fun entry => (.name entry.1, entry.2)
  | .list items => items.mapIdx fun i item => (.index i, item)
  | _ => []

def plainIndex? (segment : String) : Option Nat :=
  if Text.isNumeral segment.toList then Text.readCount? segment.toList else none

/-- The tokens of wildcard paths; neither is empty. -/
structure PathTokens where
  delimiter : String
  wildcard : String
  delimiter_ne : delimiter ≠ ""
  wildcard_ne : wildcard ≠ ""
  deriving DecidableEq

namespace PathTokens

def usual : PathTokens :=
  ⟨Path.defaultDelimiter, "*", by decide, by decide⟩

instance : Inhabited PathTokens := ⟨usual⟩

def withDelimiter (tokens : PathTokens) (delimiter : String) : Except TokenError PathTokens :=
  if h : delimiter ≠ "" then .ok ⟨delimiter, tokens.wildcard, h, tokens.wildcard_ne⟩
  else .error .emptyDelimiter

def withWildcard (tokens : PathTokens) (wildcard : String) : Except TokenError PathTokens :=
  if h : wildcard ≠ "" then .ok ⟨tokens.delimiter, wildcard, tokens.delimiter_ne, h⟩
  else .error .emptyWildcard

def segmentMatches (tokens : PathTokens) (segment : String) : ChildKey → Bool
  | .name key => segment == tokens.wildcard || key == segment
  | .index i => segment == tokens.wildcard || plainIndex? segment == some i

def matching (tokens : PathTokens) : List String → Tree → List Tree
  | [], node => [node]
  | segment :: rest, node =>
    (node.children.filter fun child => tokens.segmentMatches segment child.1).flatMap
      fun child => matching tokens rest child.2

/-- The child of the root that the whole path names by itself. -/
def exactChild? (data : Tree) (path : String) : Option Tree :=
  match data with
  | .object members => Table.get? members path
  | .list items => (plainIndex? path).bind (items[·]?)
  | _ => none

/-- The value that a path stands for. A child of the root by that very name comes first, and a lone
wildcard is the whole tree. Several matches make a list, and none the default. -/
def resolve (tokens : PathTokens) (data : Tree) (path : String) (default : Tree) : Tree :=
  match exactChild? data path with
  | some value => value
  | none =>
    if path = tokens.wildcard then data
    else
      match tokens.matching (Text.split tokens.delimiter path) data with
      | [] => default
      | [value] => value
      | values => .list values

def endsInWildcard (tokens : PathTokens) (path : String) : Bool :=
  Text.endsWith tokens.wildcard path

end PathTokens

end RuleChain
