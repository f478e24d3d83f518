/-!
# Searching and splitting text

First and last occurrences of a separator, the pieces between its occurrences, and replacement.
Each operation is defined on lists of characters and has a form of the same name on strings.
-/

namespace RuleChain.Text

def stripChars? (start s : List Char) : Option (List Char) :=
  if start.isPrefixOf s then some (s.drop start.length) else none

def cutChars? (sep : List Char) : List Char → Option (List Char × List Char)
  | [] => if sep = [] then some ([], []) else none
  | c :: cs =>
    match stripChars? sep (c :: cs) with
    | some rest => some ([], rest)
    | none => (cutChars? sep cs).map fun cut => (c :: cut.1, cut.2)

def cutLastChars? (sep : List Char) : List Char → Option (List Char × List Char)
  | [] => if sep = [] then some ([], []) else none
  | c :: cs =>
    match cutLastChars? sep cs with
    | some cut => some (c :: cut.1, cut.2)
    | none => (stripChars? sep (c :: cs)).map fun rest => ([], rest)

def dropBytes : Nat → List Char → List Char
  | _, [] => []
  | n, c :: s => if n = 0 then c :: s else dropBytes (n - c.utf8Size) s

def takeBytes : Nat → List Char → List Char
  | _, [] => []
  | n, c :: s => if n = 0 then [] else c :: takeBytes (n - c.utf8Size) s

theorem takeBytes_append_dropBytes (n : Nat) (s : List Char) :
    takeBytes n s ++ dropBytes n s = s := by
  induction s generalizing n with
  | nil => rfl
  | cons c s ih => by_cases h : n = 0 <;> simp [takeBytes, dropBytes, h, ih]

def consPiece (c : Char) : List (List Char) → List (List Char)
  | [] => [[c]]
  | piece :: pieces => (c :: piece) :: pieces

/-- The pieces between successive occurrences of a non-empty separator, after `skip` characters
of an occurrence that has begun. -/
def piecesFrom (sep : List Char) : Nat → List Char → List (List Char)
  | _, [] => [[]]
  | skip + 1, _ :: cs => piecesFrom sep skip cs
  | 0, c :: cs =>
    if sep.isPrefixOf (c :: cs) then [] :: piecesFrom sep (sep.length - 1) cs
    else consPiece c (piecesFrom sep 0 cs)

/-- The pieces between successive occurrences of `sep`, found from left to right. An empty
separator occurs before, between and after all characters. -/
def splitChars (sep s : List Char) : List (List Char) :=
  if sep = [] then [] :: (s.map fun c => [c]) ++ [[]] else piecesFrom sep 0 s

def joinChars (sep : List Char) : List (List Char) → List Char
  | [] => []
  | [piece] => piece
  | piece :: pieces => piece ++ sep ++ joinChars sep pieces

/-- Every occurrence of `old`, found from left to right, gives way to `new`. -/
def replaceChars (old new s : List Char) : List Char :=
  joinChars new (splitChars old s)

def cutLast? (sep s : String) : Option (String × String) :=
  (cutLastChars? sep.toList s.toList).map fun cut => (.ofList cut.1, .ofList cut.2)

def split (sep s : String) : List String :=
  (splitChars sep.toList s.toList).map String.ofList

def join (sep : String) (pieces : List String) : String :=
  .ofList (joinChars sep.toList (pieces.map String.toList))

def replace (old new s : String) : String :=
  .ofList (replaceChars old.toList new.toList s.toList)

def occurs (part s : String) : Bool :=
  (cutChars? part.toList s.toList).isSome

def endsWith (part s : String) : Bool :=
  part.toList.isSuffixOf s.toList

theorem stripChars?_eq_some {start s rest : List Char} (h : stripChars? start s = some rest) :
    s = start ++ rest := by
  unfold stripChars? at h
  split at h
  · next hp =>
    obtain ⟨t, rfl⟩ := List.isPrefixOf_iff_prefix.1 hp
    simp_all
  · simp at h

theorem cutChars?_eq_some {sep s : List Char} {cut : List Char × List Char}
    (h : cutChars? sep s = some cut) : s = cut.1 ++ sep ++ cut.2 := by
  induction s generalizing cut with
  | nil =>
    unfold cutChars? at h
    split at h
    · simp_all [← Option.some.inj h]
    · simp at h
  | cons c cs ih =>
    rw [cutChars?] at h
    split at h
    · next rest hr =>
      obtain rfl := Option.some.inj h
      simpa using stripChars?_eq_some hr
    · obtain ⟨inner, hi, rfl⟩ := Option.map_eq_some_iff.1 h
      simpa using ih hi

theorem cutLastChars?_eq_some {sep s : List Char} {cut : List Char × List Char}
    (h : cutLastChars? sep s = some cut) : s = cut.1 ++ sep ++ cut.2 := by
  induction s generalizing cut with
  | nil =>
    unfold cutLastChars? at h
    split at h
    · simp_all [← Option.some.inj h]
    · simp at h
  | cons c cs ih =>
    rw [cutLastChars?] at h
    split at h
    · next inner hi =>
      obtain rfl := Option.some.inj h
      simpa using ih hi
    · obtain ⟨rest, hr, rfl⟩ := Option.map_eq_some_iff.1 h
      simpa using stripChars?_eq_some hr

end RuleChain.Text
