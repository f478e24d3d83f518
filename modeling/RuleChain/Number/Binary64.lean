import RuleChain.Number.Power
import RuleChain.Number.Round

/-!
# Finite binary floating-point numbers

The finite values of the 64-bit binary format: a sign and a magnitude. All magnitudes are whole
multiples of the least positive one, `2 ^ -1074`, so a magnitude is a natural number of these units
of which no more than the upper 53 bits are used. Order, truncation and rounding are exact
arithmetic on units.
-/

namespace RuleChain

namespace Binary64

def fractionBits : Nat := 1074

def one : Nat := twoPow fractionBits

def width : Nat := 2098

def limit : Nat := twoPow width

theorem limit_pos : 0 < limit :=
  twoPow_pos width

/-- How many low bits of a magnitude are beyond the precision of 53 bits. -/
def excess (units : Nat) : Nat :=
  units.log2 + 1 - 53

def Representable (units : Nat) : Prop :=
  units < limit ∧ twoPow (excess units) ∣ units

theorem representable_zero : Representable 0 :=
  ⟨limit_pos, Nat.dvd_zero _⟩

instance (units : Nat) : Decidable (Representable units) :=
  inferInstanceAs (Decidable (_ ∧ _))

end Binary64

/-- A finite value: a sign and a number of units. There are two zeros. -/
structure Binary64 where
  negative : Bool
  units : Nat
  representable : Binary64.Representable units
  deriving DecidableEq

namespace Binary64

/-- The multiple of the precision's step that is nearest to `num / den` units. -/
def roundUnits (num den : Nat) : Nat :=
  let step := twoPow (excess (num / den))
  roundDiv num (den * step) * step

theorem dvd_mul_twoPow {m k : Nat} (hm : m ≤ twoPow 53) :
    twoPow (excess (m * twoPow k)) ∣ m * twoPow k := by
  have hk : 0 < twoPow k := twoPow_pos k
  rcases Nat.eq_zero_or_pos m with rfl | hpos
  · rw [Nat.zero_mul]
    exact Nat.dvd_zero _
  have hne : m * twoPow k ≠ 0 := Nat.mul_ne_zero (by omega) (by omega)
  rcases Nat.lt_or_eq_of_le hm with hlt | rfl
  · have hlog : (m * twoPow k).log2 < 53 + k := by
      rw [log2_lt_iff hne, twoPow_add]
      exact Nat.mul_lt_mul_of_pos_right hlt hk
    refine Nat.dvd_trans (twoPow_dvd_twoPow ?_) (Nat.dvd_mul_left _ _)
    rw [excess]
    omega
  · have hlog : (twoPow 53 * twoPow k).log2 < 54 + k := by
      rw [log2_lt_iff hne, ← twoPow_add]
      exact twoPow_lt_twoPow (by omega)
    rw [← twoPow_add] at hlog ⊢
    refine twoPow_dvd_twoPow ?_
    rw [excess]
    omega

theorem roundDiv_le_twoPow (num den : Nat) :
    roundDiv num (den * twoPow (excess (num / den))) ≤ twoPow 53 := by
  refine Nat.le_trans (roundDiv_le _ _) ?_
  rw [← Nat.div_div_eq_div_mul]
  refine Nat.succ_le_of_lt (Nat.div_lt_of_lt_mul ?_)
  rw [← twoPow_add]
  rcases Nat.eq_zero_or_pos (num / den) with h | h
  · rw [h]
    exact twoPow_pos _
  · have hlog : (num / den).log2 < excess (num / den) + 53 := by
      rw [excess]
      omega
    exact (log2_lt_iff (by omega)).1 hlog

theorem twoPow_excess_dvd_roundUnits (num den : Nat) :
    twoPow (excess (roundUnits num den)) ∣ roundUnits num den :=
  dvd_mul_twoPow (roundDiv_le_twoPow num den)

theorem roundUnits_le (num den : Nat) :
    roundUnits num den ≤ twoPow (53 + excess (num / den)) := by
  rw [twoPow_add]
  exact Nat.mul_le_mul_right _ (roundDiv_le_twoPow num den)

/-- The value nearest to `num / den` ones, if that is in range. -/
def round? (negative : Bool) (num den : Nat) : Option Binary64 :=
  let units := roundUnits (num * one) den
  if h : units < limit then
    some ⟨negative, units, h, twoPow_excess_dvd_roundUnits _ _⟩
  else none

/-- The product, if it is in range. -/
def mul? (x y : Binary64) : Option Binary64 :=
  round? (x.negative != y.negative) (x.units * y.units) (one * one)

/-- The quotient by a value other than zero, if it is in range. -/
def div? (x y : Binary64) : Option Binary64 :=
  round? (x.negative != y.negative) x.units y.units

def zero (negative : Bool) : Binary64 :=
  ⟨negative, 0, representable_zero⟩

theorem log2_mul_twoPow_le {n j : Nat} (k : Nat) (h : n < twoPow j) :
    (n * twoPow k).log2 ≤ j + k := by
  have hk : 0 < twoPow k := twoPow_pos k
  rcases Nat.eq_zero_or_pos n with rfl | hpos
  · rw [Nat.zero_mul]
    exact Nat.zero_le _
  have hlt : n * twoPow k < twoPow (j + k) := by
    rw [twoPow_add]
    exact Nat.mul_lt_mul_of_pos_right h hk
  exact Nat.le_of_lt ((log2_lt_iff (Nat.mul_ne_zero (by omega) (by omega))).2 hlt)

theorem roundUnits_lt_limit {n : Nat} (h : n < twoPow 65) : roundUnits (n * one) 1 < limit := by
  unfold limit
  refine Nat.lt_of_le_of_lt (roundUnits_le _ _) (twoPow_lt_twoPow ?_)
  have hlog : (n * one).log2 ≤ 65 + fractionBits := log2_mul_twoPow_le fractionBits h
  have hbits : 53 + (65 + fractionBits) < width := by decide
  rw [Nat.div_one, excess]
  omega

/-- The value nearest to a whole number of at most 65 bits. -/
def ofInt (i : Int) (h : i.natAbs < twoPow 65) : Binary64 :=
  ⟨decide (i < 0), roundUnits (i.natAbs * one) 1, roundUnits_lt_limit h,
    twoPow_excess_dvd_roundUnits _ _⟩

/-- The value as a signed number of units. Both zeros have none. -/
def signedUnits (x : Binary64) : Int :=
  if x.negative then -x.units else x.units

instance : LT Binary64 := ⟨fun x y => x.signedUnits < y.signedUnits⟩

instance : LE Binary64 := ⟨fun x y => x.signedUnits ≤ y.signedUnits⟩

instance (x y : Binary64) : Decidable (x < y) :=
  inferInstanceAs (Decidable (x.signedUnits < y.signedUnits))

instance (x y : Binary64) : Decidable (x ≤ y) :=
  inferInstanceAs (Decidable (x.signedUnits ≤ y.signedUnits))

def isZero (x : Binary64) : Bool :=
  x.units == 0

def isWhole (x : Binary64) : Bool :=
  x.units % one == 0

/-- The whole number next to the value on the side of zero. -/
def truncate (x : Binary64) : Int :=
  let whole : Int := (x.units / one : Nat)
  if x.negative then -whole else whole

end Binary64

def clampInt64 (i : Int) : Int64 :=
  if i < Int64.minValue.toInt then Int64.minValue
  else if Int64.maxValue.toInt < i then Int64.maxValue
  else .ofInt i

end RuleChain
