import RuleChain.Number.Decimal

/-!
# Shortest decimal text

The decimal number with the fewest digits that rounds to a given binary value, the nearest of those
to it, and its layout. The search runs over the decimal grids from the coarsest on: if a point of a
grid rounds to the value, so does one of the two points of that grid next to the value.
-/

namespace RuleChain

/-- The numbers that round to one binary value: all distances are in quarters of a unit, so that
half a step on either side is whole, and the ends belong to them or not. -/
structure RoundingInterval where
  low : Nat
  value : Nat
  high : Nat
  closed : Bool

namespace RoundingInterval

/-- The interval of a magnitude. The step below a power of two is half the step above it. -/
def ofUnits (units : Nat) : RoundingInterval :=
  let excess := Binary64.excess units
  let step := twoPow excess
  let below := if excess ≠ 0 ∧ units = twoPow (excess + 52) then step else 2 * step
  ⟨4 * units - below, 4 * units, 4 * units + 2 * step, units / step % 2 = 0⟩

def scale (i : RoundingInterval) (k : Nat) : RoundingInterval :=
  ⟨i.low * k, i.value * k, i.high * k, i.closed⟩

def holds (i : RoundingInterval) (point : Nat) : Bool :=
  if i.closed then i.low ≤ point && point ≤ i.high else i.low < point && point < i.high

/-- The multiple of `step` in the interval that is nearest to the value, of two equally near the
even one, counted in steps. -/
def nearest? (i : RoundingInterval) (step : Nat) : Option Nat :=
  let down := i.value / step
  match i.holds (down * step), i.holds ((down + 1) * step) with
  | true, true => some (roundDiv i.value step)
  | true, false => some down
  | false, true => some (down + 1)
  | false, false => none

/-- The multiple of `10 ^ exponent` in the interval that is nearest to the value. -/
def onGrid? (i : RoundingInterval) (exponent : Int) : Option Nat :=
  let quarters := 4 * Binary64.one
  if 0 ≤ exponent then i.nearest? (tenPow exponent.toNat * quarters)
  else (i.scale (tenPow (-exponent).toNat)).nearest? quarters

end RoundingInterval

def decimalLength (n : Nat) : Nat :=
  (Nat.toDigits 10 n).length

/-- Moves trailing zeros of a coefficient into the exponent, at most `fuel` of them. -/
def stripZeros : Nat → Nat → Int → Nat × Int
  | 0, coefficient, exponent => (coefficient, exponent)
  | fuel + 1, coefficient, exponent =>
    if coefficient ≠ 0 ∧ coefficient % 10 = 0 then
      stripZeros fuel (coefficient / 10) (exponent + 1)
    else (coefficient, exponent)

/-- Searches `count` grids from the one at `exponent` on, each ten times finer than the last. -/
def searchGrids (i : RoundingInterval) : Nat → Int → Option (Nat × Int)
  | 0, _ => none
  | count + 1, exponent =>
    match i.onGrid? exponent with
    | some coefficient => some (coefficient, exponent)
    | none => searchGrids i count (exponent - 1)

namespace Binary64

/-- How many decimal digits of the magnitude stand before the point; negative when zeros follow
it. A factor of `10 ^ 400` makes every positive magnitude exceed one. -/
def pointPosition (x : Binary64) : Int :=
  (decimalLength (x.units * tenPow 400 / one) : Int) - 400

/-- The shortest decimal that rounds to `x`, the nearest of those. Seventeen digits always do. -/
def shortest (x : Binary64) : Decimal :=
  if x.isZero then ⟨x.negative, 0, 0⟩
  else
    let found := (searchGrids (.ofUnits x.units) 17 (x.pointPosition - 1)).getD (0, 0)
    let stripped := stripZeros 17 found.1 found.2
    ⟨x.negative, stripped.1, stripped.2⟩

end Binary64

/-- Which decimal exponents are written with a point in place, and how the others are. -/
structure FloatLayout where
  leastInPlace : Int
  greatestInPlace : Int
  plus : List Char

namespace FloatLayout

/-- Digits with the point behind the first `position` of them, at least one digit on either side. -/
def inPlace (digits : List Char) (position : Int) : List Char :=
  if position ≤ 0 then
    '0' :: '.' :: List.replicate (-position).toNat '0' ++ digits
  else
    let p := position.toNat
    if digits.length ≤ p then digits ++ List.replicate (p - digits.length) '0' ++ ['.', '0']
    else digits.take p ++ '.' :: digits.drop p

/-- The first digit, the others behind a point, and the exponent of the first. -/
def scientific (layout : FloatLayout) (digits : List Char) (exponent : Int) : List Char :=
  digits.take 1 ++ (if digits.length ≤ 1 then [] else '.' :: digits.drop 1) ++
    'e' :: (if exponent < 0 then ['-'] else layout.plus) ++ Nat.toDigits 10 exponent.natAbs

def text (layout : FloatLayout) (d : Decimal) : List Char :=
  let digits := Nat.toDigits 10 d.coefficient
  let leading := d.exponent + digits.length - 1
  (if d.negative then ['-'] else []) ++
    if layout.leastInPlace ≤ leading ∧ leading ≤ layout.greatestInPlace then
      inPlace digits (leading + 1)
    else layout.scientific digits leading

end FloatLayout

/-- The point stands in place from `0.00001` up to sixteen digits before it; a positive exponent
carries a plus sign. -/
def floatLayout : FloatLayout := ⟨-5, 15, ['+']⟩

def Binary64.text (x : Binary64) : List Char :=
  floatLayout.text x.shortest

end RuleChain
