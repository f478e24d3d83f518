import RuleChain.Number.Binary64
import RuleChain.Text.Numeral

/-!
# Decimal numbers

A decimal number is a signed coefficient times a power of ten. It is read from text exactly and
then rounded once to binary.
-/

namespace RuleChain

/-- The value `coefficient * 10 ^ exponent` with a sign. -/
structure Decimal where
  negative : Bool
  coefficient : Nat
  exponent : Int
  deriving DecidableEq

namespace Decimal

/-- The nearest binary value, if it is in range. Exponents far outside of the range are settled by
size alone: ten to the 400 exceeds it, and a coefficient below `2 ^ (3 e - 1100)` over ten to the
`e` is less than half the least positive value. -/
def toBinary64? (d : Decimal) : Option Binary64 :=
  if d.coefficient = 0 then some (.zero d.negative)
  else if 400 < d.exponent then none
  else if 0 ≤ d.exponent then
    Binary64.round? d.negative (d.coefficient * tenPow d.exponent.toNat) 1
  else
    let e := (-d.exponent).toNat
    if d.coefficient.log2 + 1101 < 3 * e then some (.zero d.negative)
    else Binary64.round? d.negative d.coefficient (tenPow e)

/-- The whole number next to the nearest binary value on the side of zero, or the last 64-bit word
on the side of the sign. -/
def toInt64 (d : Decimal) : Int64 :=
  match d.toBinary64? with
  | some x => clampInt64 x.truncate
  | none => if d.negative then Int64.minValue else Int64.maxValue

def readExponent? : List Char → Option Int
  | [] => some 0
  | c :: s =>
    if c = 'e' ∨ c = 'E' then
      (Text.readDigits? (Text.cutSign s).2).map fun n => if (Text.cutSign s).1 then -n else n
    else none

/-- Reads digits with at most one point among them, at least one digit in all, between an optional
sign and an optional exponent. -/
def read? (s : List Char) : Option Decimal :=
  let (negative, s) := Text.cutSign s
  let whole := s.takeWhile Char.isDigit
  let s := s.dropWhile Char.isDigit
  let (fraction, s) :=
    if s.head? = some '.' then (s.tail.takeWhile Char.isDigit, s.tail.dropWhile Char.isDigit)
    else ([], s)
  if (whole ++ fraction).isEmpty then none
  else (readExponent? s).map fun e =>
    ⟨negative, Text.digitsValue (whole ++ fraction), e - fraction.length⟩

end Decimal

namespace Binary64

/-- The finite value nearest to the number that a text spells out. -/
def read? (s : List Char) : Option Binary64 :=
  (Decimal.read? s).bind Decimal.toBinary64?

end Binary64

end RuleChain
