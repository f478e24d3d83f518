import RuleChain.Password.Base64
import RuleChain.Text.Numeral
import RuleChain.Text.Search

/-!
# Hash records

The text form of a password hash: the algorithm and, each behind a dollar sign, the version, the
parameters, the salt and the hash. All parts but the algorithm may be missing, later ones first;
version and parameters may also be left out by themselves.
-/

namespace RuleChain.Password

/-- The parts of a record. Salt and values of parameters are kept as they are spelled. -/
structure HashRecord where
  algorithm : List Char
  version : Option Nat
  parameters : List (List Char × List Char)
  salt : Option (List Char)
  hash : Option (List UInt8)
  deriving DecidableEq

namespace HashRecord

/-- Whether a name has 1 to 32 lower-case letters, digits and hyphens. -/
def isName (s : List Char) : Bool :=
  !s.isEmpty && s.length ≤ 32 && s.all fun c => c.isLower || c.isDigit || c == '-'

/-- Whether a value has at most 64 letters, digits and the signs that base 64 and numbers use. -/
def isValue (s : List Char) : Bool :=
  s.length ≤ 64 && s.all fun c => c.isAlphanum || c == '/' || c == '+' || c == '.' || c == '-'

def readDecimal? (s : List Char) : Option Nat :=
  if s.head? = some '0' ∧ s.length ≠ 1 then none
  else (Text.readDigits? s).filter (· < 0x100000000)

def readParameter? (s : List Char) : Option (List Char × List Char) :=
  match Text.splitChars ['='] s with
  | [name, value] => if isName name && isValue value then some (name, value) else none
  | _ => none

def readParameters? (s : List Char) : Option (List (List Char × List Char)) :=
  if 127 < s.length then none else (Text.splitChars [','] s).mapM readParameter?

def isVersion (field : List Char) : Bool :=
  ['v', '='].isPrefixOf field && !field.contains ','

def readSalt? (s : List Char) : Option (List Char) :=
  if 4 ≤ s.length && isValue s then some s else none

def readHash? (s : List Char) : Option (List UInt8) :=
  (Base64.decode? s).filter fun bytes => 10 ≤ bytes.length && bytes.length ≤ 64

def takeVersion? (fields : List (List Char)) : Option (Option Nat × List (List Char)) :=
  match fields with
  | field :: rest =>
    if isVersion field then (readDecimal? (field.drop 2)).map fun v => (some v, rest)
    else some (none, fields)
  | [] => some (none, [])

def takeParameters? (fields : List (List Char)) :
    Option (List (List Char × List Char) × List (List Char)) :=
  match fields with
  | field :: rest =>
    if field.contains '=' then (readParameters? field).map fun ps => (ps, rest)
    else some ([], fields)
  | [] => some ([], [])

def takeHash? : List (List Char) → Option (Option (List Char) × Option (List UInt8))
  | [] => some (none, none)
  | [salt] => (readSalt? salt).map fun s => (some s, none)
  | [salt, hash] => do return (some (← readSalt? salt), some (← readHash? hash))
  | _ => none

def read? (s : List Char) : Option HashRecord :=
  match Text.splitChars ['$'] s with
  | [] :: algorithm :: fields =>
    if isName algorithm then do
      let (version, fields) ← takeVersion? fields
      let (parameters, fields) ← takeParameters? fields
      let (salt, hash) ← takeHash? fields
      return ⟨algorithm, version, parameters, salt, hash⟩
    else none
  | _ => none

end HashRecord

end RuleChain.Password
