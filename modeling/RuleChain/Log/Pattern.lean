/-!
# Patterns

The trees of regular expressions, and when an automaton of finite size can be built for one: it is
not nested too deeply, no two of its groups share a name, and every part makes sense for the kind of
character, Unicode or byte, that is in force where it stands.
-/

namespace RuleChain.Log

namespace Pattern

structure Literal where
  char : Char
  isByte : Bool

def Literal.ofChar (c : Char) : Literal :=
  ⟨c, false⟩

inductive CharSet where
  | literal (c : Literal)
  | range (low high : Literal)
  /-- A set that has a name, such as the digits, or all characters outside of it. -/
  | named (isNegated : Bool)
  | category
  | brackets (isNegated : Bool) (set : CharSet)
  | union (sets : List CharSet)
  | combined (left right : CharSet)

/-- The flags that a group or a place in a pattern turns on and off. -/
structure Flags where
  on : List Char
  off : List Char

def Flags.update (flags : Flags) (flag : Char) (before : Bool) : Bool :=
  if flags.on.contains flag then true
  else if flags.off.contains flag then false
  else before

end Pattern

inductive Pattern where
  | empty
  | change (flags : Pattern.Flags)
  | literal (c : Pattern.Literal)
  | any
  | oneOf (set : Pattern.CharSet)
  | textEdge
  | wordEdge
  | repetition (repeated : Pattern)
  | group (name : Option String) (flags : Pattern.Flags) (inner : Pattern)
  | sequence (parts : List Pattern)
  | choice (branches : List Pattern)

namespace Pattern

namespace CharSet

/-- The union of some sets. One set alone is its own union. -/
def ofList : List CharSet → CharSet
  | [set] => set
  | sets => .union sets

mutual

def depth : CharSet → Nat
  | .literal _ | .range _ _ | .named _ | .category | .union [] => 0
  | .brackets _ set => set.depth + 1
  | .union (set :: sets) => max set.depth (maxDepth sets) + 1
  | .combined left right => max left.depth right.depth + 1

def maxDepth : List CharSet → Nat
  | [] => 0
  | set :: sets => max set.depth (maxDepth sets)

end

mutual

/-- Whether a set makes sense without Unicode. Such a set holds bytes, of which only the first 128
are characters, so that no set may be turned into all bytes outside of it. -/
def isOfBytes : CharSet → Bool
  | .literal c => c.char.toNat < 0x80
  | .range low high => low.char.toNat < 0x80 && high.char.toNat < 0x80
  | .named isNegated => !isNegated
  | .category => false
  | .brackets isNegated set => !isNegated && set.isOfBytes
  | .union sets => areOfBytes sets
  | .combined left right => left.isOfBytes && right.isOfBytes

def areOfBytes : List CharSet → Bool
  | [] => true
  | set :: sets => set.isOfBytes && areOfBytes sets

end

end CharSet

def ofParts : List Pattern → Pattern
  | [] => .empty
  | [part] => part
  | parts => .sequence parts

/-- Patterns of which one has to match. One pattern alone stands for itself. -/
def ofBranches : List Pattern → Pattern
  | [branch] => branch
  | branches => .choice branches

def isRepeatable : Pattern → Bool
  | .empty | .change _ => false
  | _ => true

mutual

def depth : Pattern → Nat
  | .empty | .change _ | .literal _ | .any | .textEdge | .wordEdge => 0
  | .oneOf set => set.depth
  | .repetition inner | .group _ _ inner => inner.depth + 1
  | .sequence parts | .choice parts => maxDepth parts + 1

def maxDepth : List Pattern → Nat
  | [] => 0
  | part :: parts => max part.depth (maxDepth parts)

end

mutual

def groupNames : Pattern → List String
  | .empty | .change _ | .literal _ | .any | .oneOf _ | .textEdge | .wordEdge => []
  | .repetition inner => inner.groupNames
  | .group name _ inner => name.toList ++ inner.groupNames
  | .sequence parts | .choice parts => allGroupNames parts

def allGroupNames : List Pattern → List String
  | [] => []
  | part :: parts => part.groupNames ++ allGroupNames parts

end

mutual

/-- Whether Unicode is on behind a pattern, where `unicode` says whether it is on before it; `none`
if a part of the pattern makes no sense. Edges of words take bytes, as no finite automaton over
bytes can tell which Unicode characters around a place belong to a word. Sets, and characters that
are written as bytes, have to be characters without Unicode too. -/
def unicodeAfter? (unicode : Bool) : Pattern → Option Bool
  | .empty | .textEdge => some unicode
  | .change flags => some (flags.update 'u' unicode)
  | .literal c => if unicode || !c.isByte || c.char.toNat < 0x80 then some unicode else none
  | .any => if unicode then some unicode else none
  | .oneOf set => if unicode || set.isOfBytes then some unicode else none
  | .wordEdge => if unicode then none else some unicode
  | .repetition inner => inner.unicodeAfter? unicode
  | .group _ flags inner => (inner.unicodeAfter? (flags.update 'u' unicode)).map fun _ => unicode
  | .sequence parts | .choice parts => unicodeAfterAll? unicode parts

/-- Whether Unicode is on behind a list of patterns, each of which starts where the one before it
ends. -/
def unicodeAfterAll? (unicode : Bool) : List Pattern → Option Bool
  | [] => some unicode
  | part :: parts => (part.unicodeAfter? unicode).bind fun unicode => unicodeAfterAll? unicode parts

end

def depthLimit : Nat :=
  250

/-- Whether an automaton can be built for a pattern. Unicode is on at its start. -/
def isBuildable (pattern : Pattern) : Bool :=
  pattern.depth ≤ depthLimit && decide pattern.groupNames.Nodup &&
    (pattern.unicodeAfter? true).isSome

end Pattern

end RuleChain.Log
