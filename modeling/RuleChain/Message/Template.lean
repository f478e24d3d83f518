import RuleChain.Text.Blank
import RuleChain.Text.Numeral

/-!
# Message templates

A template is text with directives, each of which stands for an argument: `%s` for its text and
`%d` for the integer at its start. Directives take the arguments in turn, `%2$s` the second one
whatever its turn, and `%%` is a percent sign. A template is first taken apart into pieces, so no
argument is ever read for directives.
-/

namespace RuleChain.Message

inductive Conversion where
  | text
  | integer
  deriving DecidableEq

/-- A piece of a template: a character, or a directive with the number of its argument, if it names
one. -/
inductive Piece where
  | char (c : Char)
  | argument (position : Option Nat) (conversion : Conversion)
  deriving DecidableEq

def conversion? (c : Char) : Option Conversion :=
  if c = 's' then some .text else if c = 'd' then some .integer else none

/-- The directive behind a percent sign and the number of characters it takes. -/
def directive? (s : List Char) : Option (Piece × Nat) :=
  if s.head? = some '%' then some (.char '%', 1)
  else
    let digits := s.takeWhile Char.isDigit
    match digits.isEmpty, s.drop digits.length with
    | false, '$' :: spec =>
      (spec.head?.bind conversion?).map fun conversion =>
        (.argument (some ((Text.readCount? digits).getD 0)) conversion, digits.length + 2)
    | _, _ => (s.head?.bind conversion?).map fun conversion => (.argument none conversion, 1)

/-- The pieces of a template behind `skip` characters of a directive that has been read. A percent
sign that starts no directive is a character. -/
def piecesFrom : Nat → List Char → List Piece
  | _, [] => []
  | skip + 1, _ :: s => piecesFrom skip s
  | 0, c :: s =>
    if c = '%' then
      match directive? s with
      | some (piece, used) => piece :: piecesFrom used s
      | none => .char '%' :: piecesFrom 0 s
    else .char c :: piecesFrom 0 s

def pieces (template : String) : List Piece :=
  piecesFrom 0 template.toList

/-- The integer at the start of a text, behind blanks; zero when there is none or it does not fit a
signed word. -/
def leadingInteger (s : List Char) : Int64 :=
  let s := Text.trimStartChars Text.isBlank s
  let signLength := if s.head? = some '-' ∨ s.head? = some '+' then 1 else 0
  let digits := (s.drop signLength).takeWhile Char.isDigit
  (Text.readSigned? (s.take signLength ++ digits)).getD 0

def Conversion.write (conversion : Conversion) (argument : String) : List Char :=
  match conversion with
  | .text => argument.toList
  | .integer => (toString (leadingInteger argument.toList).toInt).toList

/-- The characters of some pieces, where `next` is the index of the argument that is next in turn.
A missing argument is empty. -/
def writePieces (arguments : List String) : Nat → List Piece → List Char
  | _, [] => []
  | next, .char c :: rest => c :: writePieces arguments next rest
  | next, .argument none conversion :: rest =>
    conversion.write (arguments[next]?.getD "") ++ writePieces arguments (next + 1) rest
  | next, .argument (some position) conversion :: rest =>
    conversion.write (arguments[position - 1]?.getD "") ++ writePieces arguments next rest

def interpolate (template : String) (arguments : List String) : String :=
  .ofList (writePieces arguments 0 (pieces template))

end RuleChain.Message
