import RuleChain.Number.Shortest

/-!
# Numbers

A number of a document is a whole number of 64 bits, signed or unsigned, or a finite binary
floating-point number. The two kinds are told apart: `2` and `2.0` are different numbers.
-/

namespace RuleChain

/-- The whole numbers that a signed or an unsigned 64-bit word can hold. -/
def IsWord (i : Int) : Prop :=
  -0x8000000000000000 ≤ i ∧ i < 0x10000000000000000

instance (i : Int) : Decidable (IsWord i) :=
  inferInstanceAs (Decidable (_ ∧ _))

inductive Number where
  | integer (value : Int) (isWord : IsWord value)
  | float (value : Binary64)
  deriving DecidableEq

namespace Number

theorem isWord_toInt (i : Int64) : IsWord i.toInt :=
  ⟨i.le_toInt, Int.lt_trans i.toInt_lt (by decide)⟩

theorem natAbs_lt_of_isWord {i : Int} (h : IsWord i) : i.natAbs < twoPow 65 := by
  have htwo : twoPow 65 = 0x20000000000000000 := by decide
  rw [IsWord] at h
  omega

def ofInt64 (i : Int64) : Number :=
  .integer i.toInt (isWord_toInt i)

def word? : Number → Option Int64
  | .integer i _ => if i < 0x8000000000000000 then some (.ofInt i) else none
  | .float _ => none

def toBinary64 : Number → Binary64
  | .integer i h => .ofInt i (natAbs_lt_of_isWord h)
  | .float x => x

/-- The signed word that the number is equal to; a float without a fractional part has one. -/
def toInt64? (n : Number) : Option Int64 :=
  match n.word? with
  | some i => some i
  | none =>
    let x := n.toBinary64
    if x.isWhole ∧ Int64.minValue.toInt ≤ x.truncate ∧ x.truncate ≤ Int64.maxValue.toInt then
      some (.ofInt x.truncate)
    else none

/-- The signed word next to the number on the side of zero, or the nearest one in range. -/
def truncateInt64 (n : Number) : Int64 :=
  match n.word? with
  | some i => i
  | none => clampInt64 n.toBinary64.truncate

def isCount : Number → Bool
  | .integer i _ => 0 ≤ i
  | .float _ => false

def text : Number → List Char
  | .integer i _ => (toString i).toList
  | .float x => x.text

end Number

end RuleChain
