import RuleChain.Number

/-!
# Numerals of documents

A number as a document spells it, and the value it stands for. A float is not the one nearest to the
numeral: as many leading digits as fit a word make a whole number, which is rounded, and a rounded
power of ten scales it with another rounding. So a numeral may miss the nearest float by a few steps,
and near the end of the range it may be refused although that float is finite.
-/

namespace RuleChain

namespace Binary64

/-- The exponent of the greatest power of ten in range. -/
def greatestTenPower : Nat := 308

/-- The value nearest to a power of ten, if that is in range. -/
def ofTenPower? (e : Nat) : Option Binary64 :=
  if e ≤ greatestTenPower then round? false (tenPow e) 1 else none

/-- The value times a power of ten. Beyond the powers in range only zero has a product. -/
def timesTenPower? (x : Binary64) (e : Nat) : Option Binary64 :=
  match ofTenPower? e with
  | some power => x.mul? power
  | none => if x.isZero then some x else none

/-- The value over a power of ten. Beyond the powers in range it is divided by the greatest one as
often as it takes, or until it is zero. -/
def overTenPower? (x : Binary64) (e : Nat) : Option Binary64 :=
  if e ≤ greatestTenPower then (ofTenPower? e).bind x.div?
  else if x.isZero then some x
  else ((ofTenPower? greatestTenPower).bind x.div?).bind fun y =>
    y.overTenPower? (e - greatestTenPower)
termination_by e
decreasing_by simp only [greatestTenPower] at *; omega

/-- The value `significand * 10 ^ exponent` with a sign, rounded at every step. -/
def scaled? (negative : Bool) (significand : Nat) (exponent : Int) : Option Binary64 :=
  (round? negative significand 1).bind fun x =>
    if 0 ≤ exponent then x.timesTenPower? exponent.toNat
    else x.overTenPower? (-exponent).toNat

end Binary64

namespace Json

/-- A number as spelled: a sign, digits before and behind the point, and a power of ten. There are
digits behind a point if there is one. -/
structure Numeral where
  negative : Bool
  whole : List Char
  fraction : List Char
  power : Option Int
  deriving DecidableEq

/-- Appends digits to a value as long as it fits an unsigned word. Gives the value and the digits
that are left. -/
def takeDigits : Nat → List Char → Nat × List Char
  | value, [] => (value, [])
  | value, c :: s =>
    if Text.appendDigit value c < 0x10000000000000000 then
      takeDigits (Text.appendDigit value c) s
    else (value, c :: s)

namespace Numeral

/-- Whether there is neither a point nor an exponent. -/
def isWhole (n : Numeral) : Bool :=
  n.fraction.isEmpty && n.power.isNone

/-- The whole number that the digits before the point spell. -/
def integer (n : Numeral) : Int :=
  if n.negative then -(Text.digitsValue n.whole : Int) else Text.digitsValue n.whole

/-- Leading digits that fit a word, and the power of ten that the other digits, the point and the
exponent leave. A digit that is left out before the point only counts, one behind it does not. -/
def significand (n : Numeral) : Nat × Int :=
  let front := takeDigits 0 n.whole
  let all := takeDigits front.1 n.fraction
  (all.1, front.2.length - (n.fraction.length - all.2.length) + n.power.getD 0)

def toBinary64? (n : Numeral) : Option Binary64 :=
  Binary64.scaled? n.negative n.significand.1 n.significand.2

/-- The number that is spelled. Without point and exponent it is a whole number, unless it is too
large for a word or a negative zero. -/
def toNumber? (n : Numeral) : Option Number :=
  if h : n.isWhole = true ∧ IsWord n.integer ∧ ¬(n.negative = true ∧ n.integer = 0) then
    some (.integer n.integer h.2.1)
  else n.toBinary64?.map .float

end Numeral

end Json

end RuleChain
