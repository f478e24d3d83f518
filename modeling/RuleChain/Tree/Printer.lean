import RuleChain.Text.Quoted
import RuleChain.Tree

/-!
# The text of trees

Trees are written without white space and with their members in order. A string escapes only
quotes, backslashes and control characters.
-/

namespace RuleChain.Tree

def escapeChar (c : Char) : List Char :=
  if c = '"' then ['\\', '"']
  else if c = '\\' then ['\\', '\\']
  else if c = '\x08' then ['\\', 'b']
  else if c = '\t' then ['\\', 't']
  else if c = '\n' then ['\\', 'n']
  else if c = '\x0c' then ['\\', 'f']
  else if c = '\r' then ['\\', 'r']
  else if c.toNat < 0x10 then ['\\', 'u', '0', '0', '0'] ++ Text.hexDigits c.toNat
  else if c.toNat < 0x20 then ['\\', 'u', '0', '0'] ++ Text.hexDigits c.toNat
  else [c]

def stringChars (s : String) : List Char :=
  '"' :: s.toList.flatMap escapeChar ++ ['"']

def boolChars (b : Bool) : List Char :=
  if b then ['t', 'r', 'u', 'e'] else ['f', 'a', 'l', 's', 'e']

mutual

def chars : Tree → List Char
  | .null => ['n', 'u', 'l', 'l']
  | .bool b => boolChars b
  | .number n => n.text
  | .text s => stringChars s
  | .list items => '[' :: (itemsChars items ++ [']'])
  | .object members => '\x7b' :: (membersChars members ++ ['\x7d'])

def itemsChars : List Tree → List Char
  | [] => []
  | item :: items => item.chars ++ moreItemsChars items

def moreItemsChars : List Tree → List Char
  | [] => []
  | item :: items => ',' :: (item.chars ++ moreItemsChars items)

def membersChars : List (String × Tree) → List Char
  | [] => []
  | (key, value) :: members =>
    stringChars key ++ ':' :: (value.chars ++ moreMembersChars members)

def moreMembersChars : List (String × Tree) → List Char
  | [] => []
  | (key, value) :: members =>
    ',' :: (stringChars key ++ ':' :: (value.chars ++ moreMembersChars members))

end

def toText (t : Tree) : String :=
  .ofList t.chars

end RuleChain.Tree
