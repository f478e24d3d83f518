import RuleChain.Log.Pattern.Reader
import RuleChain.Number.Decimal
import RuleChain.Text.Blank
import RuleChain.Text.Letter
import RuleChain.Text.Search

/-!
# Filter directives

A filter is a list of directives with commas between them. A directive is a level, a target, a span
in brackets, perhaps with a field in braces, or a target or span with a level behind an equals sign.
-/

namespace RuleChain.Log

def levelNames : List String :=
  ["error", "warn", "info", "debug", "trace", "off"]

/-- Whether a text is a level: a name in any letter case or a number up to five. -/
def isLevel (s : List Char) : Bool :=
  (Text.readCount? s).any (· ≤ 5) || levelNames.contains (.ofList (s.map Char.toLower))

/-- Whether a text names a value that is no finite number, in any letter case. -/
def isSpecialNumber (s : List Char) : Bool :=
  ["inf", "infinity", "nan"].contains (.ofList ((Text.cutSign s).2.map Char.toLower))

/-- Whether a text is a value that fields can be compared with: a number or a pattern. -/
def isFieldValue (s : List Char) : Bool :=
  (Decimal.read? s).isSome || isSpecialNumber s || Pattern.isWellFormed s

/-- Whether a text is a field: a name, perhaps with a value behind an equals sign. Further equals
signs end the value. -/
def isField (s : List Char) : Bool :=
  !s.isEmpty &&
    match Text.splitChars ['='] s with
    | _ :: value :: _ => isFieldValue value
    | _ => true

/-- Where the reader of a directive stands. Fields and levels remember the byte where they begin. -/
inductive DirectivePosition where
  | start
  | head
  | span
  | field (first : Nat)
  | fields
  | target
  | level (first : Nat)
  deriving DecidableEq

namespace DirectivePosition

def beginsHead (c : Char) : Bool :=
  Text.isLetterOrNumber c || c == '-' || c == ':' || c == '_'

/-- The position behind the character at byte `i`. Texts are cut from the whole directive, blanks
around it included, at bytes that are counted without the blanks before it. -/
def next? (directive : List Char) (i : Nat) (c : Char) :
    DirectivePosition → Option DirectivePosition
  | .start => if c = '[' then some .span else if beginsHead c then some .head else none
  | .head => if c = '=' then some (.level (i + 1)) else if c = '[' then some .span else some .head
  | .span =>
    if c = ']' then some .target else if c = '\x7b' then some (.field (i + 1)) else some .span
  | .field first =>
    if c = '\x7d' then
      let field := Text.takeBytes (i - first) (Text.dropBytes first directive)
      if isField field then some .fields else none
    else some (.field first)
  | .fields => if c = ']' then some .target else none
  | .target => if c = '=' then some (.level (i + 1)) else none
  | .level first => some (.level first)

def isEnd (directive : List Char) : DirectivePosition → Bool
  | .head => true
  | .target => true
  | .level first =>
    let level := Text.dropBytes first directive
    level.isEmpty || isLevel level
  | _ => false

/-- Whether the rest of a directive, from byte `i` on, leads to an end. -/
def accepts (directive : List Char) : Nat → DirectivePosition → List Char → Bool
  | _, position, [] => position.isEnd directive
  | i, position, c :: s =>
    match position.next? directive i c with
    | some position => accepts directive (i + c.utf8Size) position s
    | none => false

end DirectivePosition

def isDirective (s : List Char) : Bool :=
  DirectivePosition.accepts s 0 .start (Text.trimChars Text.isBlank s)

/-- Whether a text is a filter. Nothing between two commas is no directive and does no harm. -/
def isFilter (s : String) : Bool :=
  ((Text.splitChars [','] s.toList).filter (!·.isEmpty)).all isDirective

end RuleChain.Log
