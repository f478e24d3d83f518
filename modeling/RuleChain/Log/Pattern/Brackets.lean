import RuleChain.Log.Pattern.Item

/-!
# Sets in brackets

How a set of characters is read: single characters, ranges, sets with names, further brackets, and
the operators that combine what is on their left with what is on their right.
-/

namespace RuleChain.Log.Pattern

def setNames : List String :=
  ["alnum", "alpha", "ascii", "blank", "cntrl", "digit", "graph", "lower", "print", "punct",
    "space", "upper", "word", "xdigit"]

/-- Reads a set by name behind its left bracket, if there is one. -/
def readNamedSet? (s : List Char) : Option (CharSet × List Char) := do
  let s ← Text.stripChars? [':'] s
  let negated? := Text.stripChars? ['^'] s
  let (name, rest) ← Text.cutChars? [':', ']'] (negated?.getD s)
  if setNames.contains (.ofList name) then some (.named negated?.isSome, rest) else none

/-- Reads one place of a set: an escape or any character as itself. -/
def readSetItem? (verbose : Bool) : List Char → Option (Pattern × List Char)
  | [] => none
  | c :: s => if c = '\\' then readEscape? verbose s else some (.literal (.ofChar c), s)

/-- What a place of a pattern means in a set. Edges have no meaning there. -/
def toSet? : Pattern → Option CharSet
  | .literal c => some (.literal c)
  | .oneOf set => some set
  | _ => none

/-- The characters between the two that two places of a pattern hold, if these are in order. -/
def toRange? : Pattern → Pattern → Option CharSet
  | .literal low, .literal high => if low.char ≤ high.char then some (.range low high) else none
  | _, _ => none

/-- Reads a character, an escape or a range. A hyphen makes a range unless a right bracket or
another hyphen follows it. -/
def readSetRange? (verbose : Bool) (s : List Char) : Option (CharSet × List Char) := do
  let (low, s) ← readSetItem? verbose s
  match Text.stripChars? ['-'] (skip verbose s) with
  | none => return (← toSet? low, s)
  | some rest =>
    if peek? verbose rest = some ']' || peek? verbose rest = some '-' then return (← toSet? low, s)
    else
      let (high, s) ← readSetItem? verbose (skip verbose rest)
      return (← toRange? low high, s)

/-- Whether a caret turns a set around, and what is behind it. -/
def cutCaret (verbose : Bool) (s : List Char) : Bool × List Char :=
  match Text.stripChars? ['^'] (skip verbose s) with
  | some rest => (true, rest)
  | none => (false, s)

/-- The set that `right` gives behind an operator, if there is one with `left` before it. -/
def combine (left : Option CharSet) (right : CharSet) : CharSet :=
  left.elim right (.combined · right)

/-- Reads a set up to its right bracket. What stands left of the last operator is `left`, and
`items` is what has been read behind it, the last item first. At the start of a set all hyphens
stand for themselves, and so does a right bracket that nothing precedes. -/
def readSetFrom? : Nat → Bool → Bool → Option CharSet → List CharSet → List Char →
    Option (CharSet × List Char)
  | 0, _, _, _, _, _ => none
  | fuel + 1, verbose, atStart, left, items, s =>
    let whole := combine left (.ofList items.reverse)
    match skip verbose s with
    | [] => none
    | c :: s =>
      if atStart && c = '-' then
        readSetFrom? fuel verbose true left (.literal (.ofChar c) :: items) s
      else if atStart && c = ']' && items.isEmpty then
        readSetFrom? fuel verbose false left [.literal (.ofChar c)] s
      else if c = ']' then some (whole, s)
      else if c = '[' then
        match readNamedSet? s with
        | some (set, s) => readSetFrom? fuel verbose false left (set :: items) s
        | none => do
          let (isNegated, s) := cutCaret verbose s
          let (set, s) ← readSetFrom? fuel verbose true none [] s
          readSetFrom? fuel verbose false left (.brackets isNegated set :: items) s
      else if ['&', '-', '~'].contains c && s.head? = some c then
        readSetFrom? fuel verbose false (some whole) [] (s.drop 1)
      else do
        let (set, s) ← readSetRange? verbose (c :: s)
        readSetFrom? fuel verbose false left (set :: items) s

def readBrackets? (verbose : Bool) (s : List Char) : Option (CharSet × List Char) := do
  let (isNegated, s) := cutCaret verbose s
  let (set, s) ← readSetFrom? (s.length + 1) verbose true none [] s
  return (.brackets isNegated set, s)

end RuleChain.Log.Pattern
