import RuleChain.Text.Search
import RuleChain.Tree

/-!
# Paths

A path is a text that names a place in a tree: its segments, split at a delimiter, are keys of
objects or indices of lists. An empty delimiter turns splitting off, and a path is then one key.
Reads never fail. A write works in place, and fails where it would pass through a scalar or leave a
gap in a list.
-/

namespace RuleChain

/-- Why a tree cannot be written at a path. -/
inductive WriteError where
  /-- The value found at this segment holds no children. -/
  | notAContainer (segment : String) (found : Tree.Kind)
  /-- The segment addresses a list and is no numeral. -/
  | invalidIndex (segment : String)
  /-- The segment addresses a list beyond the place behind its last item. -/
  | indexOutOfRange (segment : String) (length : Nat)
  deriving DecidableEq

def WriteError.message : WriteError → String
  | .notAContainer segment found =>
    s!"Cannot descend into {found.name} at segment '{segment}'"
  | .invalidIndex segment => s!"Segment '{segment}' is not a valid list index"
  | .indexOutOfRange segment length =>
    s!"Index '{segment}' is out of range for a list of {length} items"

namespace Tree

def child? (node : Tree) (segment : String) : Option Tree :=
  match node with
  | .object members => Table.get? members segment
  | .list items => (Text.readCount? segment.toList).bind (items[·]?)
  | _ => none

def get? (node : Tree) : List String → Option Tree
  | [] => some node
  | segment :: rest => (node.child? segment).bind (get? · rest)

/-- The index that a segment addresses for a write: an item, or the place behind the last one. -/
def slot (length : Nat) (segment : String) : Except WriteError Nat :=
  match Text.readCount? segment.toList with
  | none => .error (.invalidIndex segment)
  | some i => if length < i then .error (.indexOutOfRange segment length) else .ok i

/-- Puts an item at an index, or at the end when the index is the length. -/
def setItem (items : List Tree) (i : Nat) (item : Tree) : List Tree :=
  if i = items.length then items ++ [item] else items.set i item

/-- What became of a write, and the tree as the write left it: one that fails on its way leaves what
it has made so far. -/
abbrev Write := Except WriteError Unit × Tree

/-- The value, or an empty object in the place of null. -/
def opened : Tree → Tree
  | .null => empty
  | other => other

/-- Changes in place the child that a segment addresses: a member, an item, or the place behind the
last item. A missing child is put there as null first, and null takes the child as an empty object
would. -/
def modifyChild (node : Tree) (segment : String) (f : Tree → Write) : Write :=
  match node.opened with
  | .object members =>
    let written := f ((Table.get? members segment).getD .null)
    (written.1, .object (Table.insert members segment written.2))
  | .list items =>
    match slot items.length segment with
    | .error e => (.error e, .list items)
    | .ok i =>
      let written := f ((items[i]?).getD .null)
      (written.1, .list (setItem items i written.2))
  | other => (.error (.notAContainer segment other.kind), other)

/-- Puts a value in the place of the child that a segment addresses. -/
def assignChild (value node : Tree) (segment : String) : Write :=
  node.modifyChild segment fun _ => (.ok (), value)

/-- Removes the child that a segment addresses, if there is one. -/
def removeChild (node : Tree) (segment : String) : Write :=
  match node with
  | .null => (.ok (), .null)
  | .object members => (.ok (), .object (Table.erase members segment))
  | .list items =>
    match Text.readCount? segment.toList with
    | some i => (.ok (), .list (items.eraseIdx i))
    | none => (.ok (), .list items)
  | other => (.error (.notAContainer segment other.kind), other)

/-- Changes in place the node that the last of some segments addresses a child of. On the way there,
missing parents and null in the place of a parent become empty objects. -/
def modifyParent (change : Tree → String → Write) : List String → Tree → Write
  | [], node => (.ok (), node)
  | [segment], node => change node segment
  | segment :: rest, node =>
    node.modifyChild segment fun child => modifyParent change rest child.opened

end Tree

namespace Path

def defaultDelimiter : String := "."

def segments (delimiter path : String) : List String :=
  if delimiter = "" then [path] else Text.split delimiter path

/-- The value at a path; a null that is present is a value. -/
def lookup? (delimiter : String) (data : Tree) (path : String) : Option Tree :=
  data.get? (segments delimiter path)

def lookupD (delimiter : String) (data : Tree) (path : String) (default : Tree) : Tree :=
  (lookup? delimiter data path).getD default

def isSet (delimiter : String) (data : Tree) (path : String) : Bool :=
  (lookup? delimiter data path).isSome

def set (delimiter : String) (data : Tree) (path : String) (value : Tree) : Tree.Write :=
  Tree.modifyParent (Tree.assignChild value) (segments delimiter path) data

def unset (delimiter : String) (data : Tree) (path : String) : Tree.Write :=
  Tree.modifyParent Tree.removeChild (segments delimiter path) data

end Path

end RuleChain
