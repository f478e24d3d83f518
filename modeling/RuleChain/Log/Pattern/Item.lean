import RuleChain.Json.Document
import RuleChain.Log.Pattern
import RuleChain.Text.Blank
import RuleChain.Text.Search

/-!
# Single characters and escapes

What one place of a pattern holds. In a verbose pattern, which a flag asks for, blanks and comments
up to the end of a line may stand between any two such places and between the digits of an escape.
-/

namespace RuleChain.Log.Pattern

/-- Drops blanks and comments from the front, where `inComment` says whether the front lies in a
comment. -/
def skipFrom (inComment : Bool) : List Char → List Char
  | [] => []
  | c :: s =>
    if inComment then skipFrom (c != '\n') s
    else if Text.isBlank c then skipFrom false s
    else if c = '#' then skipFrom true s
    else c :: s

/-- Drops what does not count from the front of a pattern, if it is verbose. -/
def skip (verbose : Bool) (s : List Char) : List Char :=
  if verbose then skipFrom false s else s

/-- The first character that counts. In a verbose pattern it is looked for behind blanks and the
mark of one comment, so that it may be the first character of that comment. -/
def peek? (verbose : Bool) (s : List Char) : Option Char :=
  if verbose then
    let s := s.dropWhile Text.isBlank
    (((Text.stripChars? ['#'] s).map (·.dropWhile Text.isBlank)).getD s).head?
  else s.head?

def readHexDigits? (verbose : Bool) : Nat → List Char → Option (List Nat × List Char)
  | 0, s => some ([], s)
  | n + 1, s =>
    match skip verbose s with
    | [] => none
    | c :: s => do
      let digit ← Json.hexValue? c
      let (digits, s) ← readHexDigits? verbose n s
      return (digit :: digits, s)

/-- Reads a character by so many hexadecimal digits. Two digits name a byte. -/
def readHexLiteral? (verbose : Bool) (n : Nat) (s : List Char) : Option (Pattern × List Char) := do
  let (digits, s) ← readHexDigits? verbose n s
  let code := digits.foldl (fun code digit => 16 * code + digit) 0
  if code.isValidChar then some (.literal ⟨Char.ofNat code, n == 2⟩, s) else none

def controlEscapes : List (Char × Char) :=
  [('a', '\x07'), ('f', '\x0c'), ('t', '\t'), ('n', '\n'), ('r', '\r'), ('v', '\x0b')]

def categoryLetters : List Char :=
  ['C', 'L', 'M', 'N', 'P', 'S', 'Z']

def readEscape? (verbose : Bool) : List Char → Option (Pattern × List Char)
  | [] => none
  | c :: s =>
    if ['d', 's', 'w'].contains c then some (.oneOf (.named false), s)
    else if ['D', 'S', 'W'].contains c then some (.oneOf (.named true), s)
    else if c = 'A' || c = 'z' then some (.textEdge, s)
    else if ['b', 'B', '<', '>'].contains c then some (.wordEdge, s)
    else if c = 'x' then readHexLiteral? verbose 2 s
    else if c = 'u' then readHexLiteral? verbose 4 s
    else if c = 'U' then readHexLiteral? verbose 8 s
    else if c = 'p' || c = 'P' then
      match skip verbose s with
      | [] => none
      | letter :: s =>
        if categoryLetters.contains letter.toUpper then some (.oneOf .category, s) else none
    else
      match controlEscapes.lookup c with
      | some control => some (.literal (.ofChar control), s)
      | none =>
        if c.toNat < 0x80 && !c.isAlphanum then some (.literal (.ofChar c), s) else none

end RuleChain.Log.Pattern
