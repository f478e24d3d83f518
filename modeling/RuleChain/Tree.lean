import RuleChain.Json.Document
import RuleChain.Number
import RuleChain.Table

/-!
# Trees

The values that rules judge and paths address: null, truth values, numbers, texts, lists, and
objects whose members keep their order.
-/

namespace RuleChain

/-- A value of a document. -/
inductive Tree where
  | null
  | bool (b : Bool)
  | number (n : Number)
  | text (s : String)
  | list (items : List Tree)
  | object (members : List (String × Tree))

namespace Tree

instance : Inhabited Tree := ⟨.null⟩

def ofInt64 (i : Int64) : Tree :=
  .number (.ofInt64 i)

def ofTexts (texts : List String) : Tree :=
  .list (texts.map .text)

inductive Kind where
  | null
  | bool
  | number
  | text
  | list
  | object
  deriving DecidableEq

def Kind.name : Kind → String
  | .null => "null"
  | .bool => "boolean"
  | .number => "number"
  | .text => "string"
  | .list => "array"
  | .object => "object"

def kind : Tree → Kind
  | .null => .null
  | .bool _ => .bool
  | .number _ => .number
  | .text _ => .text
  | .list _ => .list
  | .object _ => .object

def isNull : Tree → Bool
  | .null => true
  | _ => false

def isContainer : Tree → Bool
  | .list _ => true
  | .object _ => true
  | _ => false

/-- Whether the value is a list or an object that holds something. -/
def hasChildren : Tree → Bool
  | .list items => !items.isEmpty
  | .object members => !members.isEmpty
  | _ => false

def empty : Tree :=
  .object []

mutual

/-- The value of a document whose containers nest at most `room` deep. Numbers must be in range,
strings must be text, and a repeated key keeps its first place and takes its last value. -/
def ofDocument? (room : Nat) : Json.Document → Option Tree
  | .null => some .null
  | .bool b => some (.bool b)
  | .number numeral => numeral.toNumber?.map .number
  | .text pieces => (Json.decodeText? pieces).map .text
  | .list items => if room = 0 then none else (ofItems? (room - 1) items).map .list
  | .object members =>
    if room = 0 then none
    else (ofMembers? (room - 1) members).map fun entries => .object (Table.ofEntries entries)

def ofItems? (room : Nat) : List Json.Document → Option (List Tree)
  | [] => some []
  | item :: items =>
    match ofDocument? room item with
    | none => none
    | some t => (ofItems? room items).map (t :: ·)

def ofMembers? (room : Nat) : List (List Json.Piece × Json.Document) → Option (Table Tree)
  | [] => some []
  | (key, value) :: members =>
    match Json.decodeText? key, ofDocument? room value with
    | some k, some t => (ofMembers? room members).map ((k, t) :: ·)
    | _, _ => none

end

def maxDepth : Nat := 127

def parse? (text : String) : Option Tree :=
  (Json.Document.parse? text).bind (ofDocument? maxDepth)

end Tree

end RuleChain
