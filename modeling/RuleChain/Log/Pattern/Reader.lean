import RuleChain.Log.Pattern.Brackets
import RuleChain.Text.Letter

/-!
# Reading patterns

From a text to the tree of a pattern. Patterns come from filters, where they cannot hold commas,
equals signs or pairs of braces, so there are no counted repetitions, and categories have one
letter.
-/

namespace RuleChain.Log.Pattern

def isGroupName : List Char → Bool
  | [] => false
  | c :: s =>
    (Text.isLetter c || c == '_') &&
      s.all fun c => Text.isLetterOrNumber c || ['_', '.', '[', ']'].contains c

/-- What a left parenthesis opens: flags that stand alone, or a group, perhaps with a name. -/
inductive Opening where
  | flags (flags : Flags)
  | group (name : Option String) (flags : Flags)

/-- The flags in a text: each once, with at most one hyphen, which is not the last. -/
def readFlags? (s : List Char) : Option Flags :=
  if s.all (['i', 'm', 's', 'U', 'u', 'x', 'R', '-'].contains ·) && s.getLast? != some '-'
      && decide s.Nodup then
    some ⟨s.takeWhile (· != '-'), (s.dropWhile (· != '-')).drop 1⟩
  else none

def readOpening? (verbose : Bool) (s : List Char) : Option (Opening × List Char) :=
  let s := skip verbose s
  match (Text.stripChars? ['?', 'P', '<'] s).or (Text.stripChars? ['?', '<'] s) with
  | some s => do
    let (name, rest) ← Text.cutChars? ['>'] s
    if isGroupName name then some (.group (some (.ofList name)) ⟨[], []⟩, rest) else none
  | none =>
    match Text.stripChars? ['?'] s with
    | none => some (.group none ⟨[], []⟩, s)
    | some s => do
      let text := s.takeWhile fun c => c != ':' && c != ')'
      let flags ← readFlags? text
      match s.drop text.length with
      | ':' :: rest => some (.group none flags, rest)
      | ')' :: rest => if text.isEmpty then none else some (.flags flags, rest)
      | _ => none

def readItem? (verbose : Bool) : List Char → Option (Pattern × List Char)
  | [] => none
  | c :: s =>
    if c = '\\' then readEscape? verbose s
    else if c = '[' then (readBrackets? verbose s).map fun (set, s) => (.oneOf set, s)
    else if c = '.' then some (.any, s)
    else if c = '^' || c = '$' then some (.textEdge, s)
    else if c = '\x7b' then none
    else some (.literal (.ofChar c), s)

/-- Reads a pattern up to its end or to a right parenthesis. The `branches` of a choice and the
`parts` of its present branch have been read already, the last one first. An operator of repetition
repeats the last part, and a question mark behind it changes what it prefers. -/
def readFrom? : Nat → Bool → List Pattern → List Pattern → List Char → Option (Pattern × List Char)
  | 0, _, _, _, _ => none
  | fuel + 1, verbose, branches, parts, s =>
    let branch := ofParts parts.reverse
    let whole := ofBranches (branch :: branches).reverse
    match skip verbose s with
    | [] => some (whole, [])
    | c :: s =>
      if c = ')' then some (whole, c :: s)
      else if c = '|' then readFrom? fuel verbose (branch :: branches) [] s
      else if c = '(' then do
        match ← readOpening? verbose s with
        | (.flags flags, s) =>
          readFrom? fuel (flags.update 'x' verbose) branches (.change flags :: parts) s
        | (.group name flags, s) =>
          let (inner, s) ← readFrom? fuel (flags.update 'x' verbose) [] [] s
          let s ← Text.stripChars? [')'] s
          readFrom? fuel verbose branches (.group name flags inner :: parts) s
      else if c = '*' || c = '+' || c = '?' then
        match parts with
        | [] => none
        | part :: parts =>
          if part.isRepeatable then
            readFrom? fuel verbose branches (.repetition part :: parts)
              ((Text.stripChars? ['?'] s).getD s)
          else none
      else do
        let (part, s) ← readItem? verbose (c :: s)
        readFrom? fuel verbose branches (part :: parts) s

def read? (s : List Char) : Option Pattern :=
  match readFrom? (s.length + 1) false [] [] s with
  | some (pattern, []) => some pattern
  | _ => none

/-- Whether a text is a pattern that an automaton can be built for. -/
def isWellFormed (s : List Char) : Bool :=
  (read? s).any isBuildable

end RuleChain.Log.Pattern
