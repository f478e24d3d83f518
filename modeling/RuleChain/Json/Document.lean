import RuleChain.Json.Numeral
import RuleChain.Text.Search

/-!
# JSON documents

A document as it is spelled: strings keep their escapes, numbers their spelling and objects every
member, repeated keys included. Whether a number is in range, an escape names a character, or the
nesting is too deep is for the reader of a document to say, and only where it looks.
-/

namespace RuleChain.Json

/-- A piece of a string: a character, or an escaped 16-bit unit, which may be half of one. -/
inductive Piece where
  | char (c : Char)
  | unit (n : Nat)
  deriving DecidableEq

/-- A document as spelled. -/
inductive Document where
  | null
  | bool (b : Bool)
  | number (numeral : Numeral)
  | text (pieces : List Piece)
  | list (items : List Document)
  | object (members : List (List Piece × Document))

def pairUnits (high low : Nat) : Char :=
  Char.ofNat (0x10000 + (high - 0xD800) * 0x400 + (low - 0xDC00))

def isHighUnit (n : Nat) : Bool :=
  0xD800 ≤ n && n ≤ 0xDBFF

def isLowUnit (n : Nat) : Bool :=
  0xDC00 ≤ n && n ≤ 0xDFFF

def decodePieces? : List Piece → Option (List Char)
  | [] => some []
  | .char c :: rest => (decodePieces? rest).map (c :: ·)
  | .unit high :: .unit low :: rest =>
    if isHighUnit high then
      if isLowUnit low then (decodePieces? rest).map (pairUnits high low :: ·) else none
    else if isLowUnit high then none
    else (decodePieces? (.unit low :: rest)).map (Char.ofNat high :: ·)
  | .unit n :: rest =>
    if isHighUnit n || isLowUnit n then none else (decodePieces? rest).map (Char.ofNat n :: ·)

/-- The text of a string, unless half a character stands alone in it. -/
def decodeText? (pieces : List Piece) : Option String :=
  (decodePieces? pieces).map String.ofList

def skipSpace (s : List Char) : List Char :=
  s.dropWhile fun c => c == ' ' || c == '\t' || c == '\n' || c == '\r'

def hexValue? (c : Char) : Option Nat :=
  if '0' ≤ c ∧ c ≤ '9' then some (c.toNat - '0'.toNat)
  else if 'a' ≤ c ∧ c ≤ 'f' then some (c.toNat - 'a'.toNat + 10)
  else if 'A' ≤ c ∧ c ≤ 'F' then some (c.toNat - 'A'.toNat + 10)
  else none

def readUnit? (a b c d : Char) : Option Nat := do
  return (((← hexValue? a) * 16 + (← hexValue? b)) * 16 + (← hexValue? c)) * 16 + (← hexValue? d)

def readEscape? (c : Char) : Option Char :=
  if c = '"' ∨ c = '\\' ∨ c = '/' then some c
  else if c = 'b' then some '\x08'
  else if c = 'f' then some '\x0c'
  else if c = 'n' then some '\n'
  else if c = 'r' then some '\r'
  else if c = 't' then some '\t'
  else none

/-- Reads the rest of a string behind the opening quote, of which the pieces in `before` have been
read, the last one first. -/
def readPieces (before : List Piece) : List Char → Option (List Piece × List Char)
  | [] => none
  | '"' :: rest => some (before.reverse, rest)
  | '\\' :: 'u' :: a :: b :: c :: d :: rest =>
    match readUnit? a b c d with
    | some n => readPieces (.unit n :: before) rest
    | none => none
  | '\\' :: c :: rest =>
    match readEscape? c with
    | some e => readPieces (.char e :: before) rest
    | none => none
  | c :: rest => if c.toNat < 0x20 then none else readPieces (.char c :: before) rest

/-- Reads a fraction, if one begins here: a point and at least one digit. -/
def readFraction : List Char → Option (List Char × List Char)
  | '.' :: s =>
    let digits := s.takeWhile Char.isDigit
    if digits.isEmpty then none else some (digits, s.dropWhile Char.isDigit)
  | s => some ([], s)

def readPower (s : List Char) : Option (Option Int × List Char) :=
  match s with
  | c :: r =>
    if c = 'e' ∨ c = 'E' then
      let (negative, r) := Text.cutSign r
      (Text.readDigits? (r.takeWhile Char.isDigit)).map fun n =>
        (some (if negative then -n else n), r.dropWhile Char.isDigit)
    else some (none, s)
  | [] => some (none, [])

/-- Reads a number: no plus sign, no needless zero, digits on both sides of a point. -/
def readNumber (s : List Char) : Option (Document × List Char) := do
  let negative := s.head? == some '-'
  let s := if negative then s.tail else s
  let digits := s.takeWhile Char.isDigit
  if digits.isEmpty || (digits.head? == some '0' && digits.length != 1) then none
  let (fraction, s) ← readFraction (s.dropWhile Char.isDigit)
  let (power, s) ← readPower s
  return (.number ⟨negative, digits, fraction, power⟩, s)

mutual

/-- Reads one value at the front, given enough fuel for its nesting and its members. -/
def readValue : Nat → List Char → Option (Document × List Char)
  | 0, _ => none
  | fuel + 1, s =>
    match skipSpace s with
    | 'n' :: s => (Text.stripChars? ['u', 'l', 'l'] s).map fun rest => (.null, rest)
    | 't' :: s => (Text.stripChars? ['r', 'u', 'e'] s).map fun rest => (.bool true, rest)
    | 'f' :: s => (Text.stripChars? ['a', 'l', 's', 'e'] s).map fun rest => (.bool false, rest)
    | '"' :: s => (readPieces [] s).map fun (pieces, rest) => (.text pieces, rest)
    | '[' :: s =>
      match skipSpace s with
      | ']' :: rest => some (.list [], rest)
      | s => readItems fuel [] s
    | '\x7b' :: s =>
      match skipSpace s with
      | '\x7d' :: rest => some (.object [], rest)
      | s => readMembers fuel [] s
    | s => readNumber s

/-- Reads the items of a list up to its end, those in `before` having been read. -/
def readItems : Nat → List Document → List Char → Option (Document × List Char)
  | 0, _, _ => none
  | fuel + 1, before, s =>
    match readValue fuel s with
    | none => none
    | some (item, s) =>
      match skipSpace s with
      | ',' :: s => readItems fuel (item :: before) s
      | ']' :: rest => some (.list (item :: before).reverse, rest)
      | _ => none

/-- Reads the members of an object up to its end, those in `before` having been read. -/
def readMembers : Nat → List (List Piece × Document) → List Char → Option (Document × List Char)
  | 0, _, _ => none
  | fuel + 1, before, s =>
    match skipSpace s with
    | '"' :: s =>
      match readPieces [] s with
      | none => none
      | some (key, s) =>
        match skipSpace s with
        | ':' :: s =>
          match readValue fuel s with
          | none => none
          | some (value, s) =>
            match skipSpace s with
            | ',' :: s => readMembers fuel ((key, value) :: before) s
            | '\x7d' :: rest => some (.object ((key, value) :: before).reverse, rest)
            | _ => none
        | _ => none
    | _ => none

end

/-- Reads a text that holds one document and white space around it. A value costs at most two steps
for each of its characters. -/
def Document.parse? (text : String) : Option Document :=
  let s := text.toList
  match readValue (2 * s.length + 2) s with
  | some (document, rest) => if (skipSpace rest).isEmpty then some document else none
  | none => none

end RuleChain.Json
