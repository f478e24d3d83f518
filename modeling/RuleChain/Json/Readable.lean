import RuleChain.Tree

/-!
# Reading records

Readers of settings look into a document through a few questions, so that a document as spelled, in
which a key may stand twice, and a tree, in which it cannot, are read by the same rules. A record is
an object with known keys, each at most once, or a list of its fields in order; fields that are
missing keep their defaults.
-/

namespace RuleChain.Json

/-- What a reader asks a value. Members are given as spelled, repeated keys included. -/
class Readable (α : Type) where
  text? : α → Option String
  bool? : α → Option Bool
  integer? : α → Option Int
  isNull : α → Bool
  items? : α → Option (List α)
  members? : α → Option (List (String × α))

def integerOf? : Number → Option Int
  | .integer i _ => some i
  | .float _ => none

instance : Readable Document where
  text? | .text pieces => decodeText? pieces
        | _ => none
  bool? | .bool b => some b
        | _ => none
  integer? | .number numeral => numeral.toNumber?.bind integerOf?
           | _ => none
  isNull | .null => true
         | _ => false
  items? | .list items => some items
         | _ => none
  members? | .object members =>
             members.mapM fun (key, value) => (decodeText? key).map fun k => (k, value)
           | _ => none

instance : Readable Tree where
  text? | .text s => some s
        | _ => none
  bool? | .bool b => some b
        | _ => none
  integer? | .number n => integerOf? n
           | _ => none
  isNull := Tree.isNull
  items? | .list items => some items
         | _ => none
  members? | .object members => some members
           | _ => none

/-- A field of a record: its names, the first one and others that stand for it, and how a value
sets it. -/
structure RecordField (α β : Type) where
  names : List String
  set : β → α → Option β

variable {α β : Type} [Readable α]

/-- Takes the members of an object into a record, where `seen` holds the indices of fields that are
set. A key of no field is passed over or refused. -/
def setMembers (fields : List (RecordField α β)) (unknownAllowed : Bool) :
    List Nat → β → List (String × α) → Option β
  | _, record, [] => some record
  | seen, record, (key, value) :: members =>
    match fields.findIdx? (·.names.contains key) with
    | none => if unknownAllowed then setMembers fields unknownAllowed seen record members else none
    | some i =>
      if seen.contains i then none
      else
        match (fields[i]?).bind (·.set record value) with
        | none => none
        | some record => setMembers fields unknownAllowed (i :: seen) record members

/-- Takes the items of a list into the fields of a record, in order. -/
def setItems : List (RecordField α β) → β → List α → Option β
  | _, record, [] => some record
  | [], _, _ :: _ => none
  | field :: fields, record, item :: items =>
    match field.set record item with
    | none => none
    | some record => setItems fields record items

def readRecord? (fields : List (RecordField α β)) (unknownAllowed : Bool) (defaults : β)
    (value : α) : Option β :=
  match Readable.members? value with
  | some members => setMembers fields unknownAllowed [] defaults members
  | none => (Readable.items? value).bind (setItems fields defaults)

end RuleChain.Json
