import RuleChain.Password.Argon2
import RuleChain.Password.Record

/-!
# Password schemes

A scheme makes a record from a password and reads a record as a test on passwords. The scheme in use
makes Argon2 records and accepts them in all variants, versions and costs.
-/

namespace RuleChain

structure PasswordScheme where
  record? : String → Option String
  verifier? : String → Option (String → Bool)

namespace Password

def bytesOf (s : String) : List UInt8 :=
  s.toUTF8.toList

def Variant.ofName? (name : List Char) : Option Variant :=
  if name = ['a', 'r', 'g', 'o', 'n', '2', 'd'] then some .dependent
  else if name = ['a', 'r', 'g', 'o', 'n', '2', 'i'] then some .independent
  else if name = ['a', 'r', 'g', 'o', 'n', '2', 'i', 'd'] then some .hybrid
  else none

namespace Argon2

/-- Sets one cost, or the data, from a parameter of a record. -/
def withParameter? (a : Argon2) (parameter : List Char × List Char) : Option Argon2 :=
  let (name, value) := parameter
  if name = ['m'] then (HashRecord.readDecimal? value).map fun n => { a with memory := n }
  else if name = ['t'] then (HashRecord.readDecimal? value).map fun n => { a with passes := n }
  else if name = ['p'] then (HashRecord.readDecimal? value).map fun n => { a with lanes := n }
  else if name = ['k', 'e', 'y', 'i', 'd'] then
    ((Base64.decode? value).filter (·.length ≤ 8)).map fun _ => a
  else if name = ['d', 'a', 't', 'a'] then
    ((Base64.decode? value).filter (·.length ≤ 32)).map fun bytes => { a with data := bytes }
  else none

/-- Whether there is enough memory for the lanes, and at least one lane and one pass. -/
def isAffordable (a : Argon2) : Bool :=
  8 ≤ a.memory && 8 * a.lanes ≤ a.memory && 1 ≤ a.passes && 1 ≤ a.lanes && a.lanes < 0x1000000

def ofRecord? (record : HashRecord) : Option Argon2 := do
  let variant ← Variant.ofName? record.algorithm
  let version := record.version.getD 19
  if version ≠ 16 ∧ version ≠ 19 then none
  let a ← record.parameters.foldlM withParameter? { variant, version }
  if a.isAffordable then return a else none

def verify (record : HashRecord) (password : String) : Bool :=
  match ofRecord? record, record.salt.bind Base64.decode?, record.hash with
  | some a, some salt, some hash =>
    8 ≤ salt.length && a.hash hash.length (bytesOf password) salt == hash
  | _, _, _ => false

/-- The record of a password at the default cost, with a hash of 32 bytes. -/
def record (salt : List UInt8) (password : String) : String :=
  "$argon2id$v=19$m=19456,t=2,p=1$" ++ .ofList (Base64.encode salt) ++ "$" ++
    .ofList (Base64.encode (hash {} 32 (bytesOf password) salt))

end Argon2

end Password

def PasswordScheme.argon2 (salt : List UInt8) : PasswordScheme where
  record? password := some (Password.Argon2.record salt password)
  verifier? text := (Password.HashRecord.read? text.toList).map Password.Argon2.verify

end RuleChain
