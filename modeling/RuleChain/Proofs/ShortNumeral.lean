import RuleChain.Json.Numeral
import RuleChain.Number.Decimal
import RuleChain.Proofs.NearestInteger

/-!
# Short numerals

The reader of documents rounds the digits of a numeral, a power of ten and what the one makes of the
other. The digits and the power are floats already if both are small, and then one rounding is left.
Main statement: a short numeral of a document is read as the float that the reader of texts gives,
which is the nearest one.
-/

namespace RuleChain.Proofs
open RuleChain.Binary64 RuleChain.Json RuleChain.Text

section Quotients

lemma roundUnits_mul_right (num den : Nat) {k : Nat} (hk : 0 < k) :
    roundUnits (num * k) (den * k) = roundUnits num den := by
  have hdiv : num * k / (den * k) = num / den := Nat.mul_div_mul_right num den hk
  unfold roundUnits
  dsimp only
  rw [hdiv, Nat.mul_right_comm den k, roundDiv_mul_right _ _ hk]

lemma round?_mul_right (negative : Bool) (num den : Nat) {k : Nat} (hk : 0 < k) :
    round? negative (num * k) (den * k) = round? negative num den := by
  have hunits : roundUnits (num * k * one) (den * k) = roundUnits (num * one) den := by
    rw [Nat.mul_right_comm, roundUnits_mul_right _ _ hk]
  simp only [round?, hunits]

lemma round?_zero (negative : Bool) (den : Nat) : round? negative 0 den = some (zero negative) := by
  have hunits : roundUnits (0 * one) den = 0 := by
    simp [roundUnits, roundDiv]
  simp only [round?, hunits, limit_pos, dite_true]
  rfl

end Quotients

section Values

/-- A whole number of few binary digits is a value as it stands. -/
lemma exists_round?_of_short (negative : Bool) {n : Nat} (hshort : Short (n * one))
    (hlimit : n * one < limit) :
    ∃ x, round? negative n 1 = some x ∧ x.negative = negative ∧ x.units = n * one := by
  refine ⟨⟨negative, n * one, hlimit, hshort⟩, ?_, rfl, rfl⟩
  have hunits : roundUnits (n * one) 1 = n * one := by
    rw [roundUnits_one, nearestNat_eq_self_iff.2 hshort]
  simp only [round?, hunits, hlimit, dite_true]

lemma mul_twoPow_lt_limit {m k : Nat} (hm : m ≤ twoPow 53) (hk : k < 2045) :
    m * twoPow k < limit := by
  calc
    m * twoPow k ≤ twoPow 53 * twoPow k := Nat.mul_le_mul_right _ hm
    _ = twoPow (53 + k) := (twoPow_add 53 k).symm
    _ < limit := twoPow_lt_twoPow (by unfold width; omega)

lemma exists_round?_of_le (negative : Bool) {n : Nat} (hn : n ≤ twoPow 53) :
    ∃ x, round? negative n 1 = some x ∧ x.negative = negative ∧ x.units = n * one :=
  exists_round?_of_short negative (dvd_mul_twoPow hn) (mul_twoPow_lt_limit hn (by decide))

/-- The powers of ten up to the 22nd are values: their odd parts fit the precision. -/
lemma exists_tenPower {e : Nat} (he : e ≤ 22) :
    ∃ x, ofTenPower? e = some x ∧ x.negative = false ∧ x.units = tenPow e * one := by
  have hodd : Nat.pow 5 e ≤ twoPow 53 :=
    Nat.le_trans (Nat.pow_le_pow_right (by decide) he) (by decide)
  have hfactors : tenPow e * one = Nat.pow 5 e * twoPow (e + fractionBits) := by
    have hten : tenPow e = Nat.pow 5 e * twoPow e := Nat.mul_pow 5 2 e
    rw [hten, twoPow_add, Nat.mul_assoc, one]
  rw [ofTenPower?, if_pos (Nat.le_trans he (by decide))]
  apply exists_round?_of_short
  · rw [hfactors]
    exact dvd_mul_twoPow hodd
  · rw [hfactors]
    exact mul_twoPow_lt_limit hodd (by unfold fractionBits; omega)

lemma timesTenPower?_of_le {x : Binary64} {n e : Nat} (hx : x.units = n * one) (he : e ≤ 22) :
    x.timesTenPower? e = round? x.negative (n * tenPow e) 1 := by
  obtain ⟨y, hy, hnegative, hunits⟩ := exists_tenPower he
  have hproduct : x.units * y.units = n * tenPow e * (one * one) := by
    rw [hx, hunits, Nat.mul_mul_mul_comm]
  have hone : 0 < one := twoPow_pos _
  have hround := round?_mul_right x.negative (n * tenPow e) 1 (Nat.mul_pos hone hone)
  rw [Nat.one_mul] at hround
  rw [timesTenPower?, hy]
  simp only
  rw [mul?, hproduct, hnegative, Bool.bne_false, hround]

lemma overTenPower?_of_le {x : Binary64} {n e : Nat} (hx : x.units = n * one) (he : e ≤ 22) :
    x.overTenPower? e = round? x.negative n (tenPow e) := by
  obtain ⟨y, hy, hnegative, hunits⟩ := exists_tenPower he
  have hone : 0 < one := twoPow_pos _
  rw [overTenPower?, if_pos (Nat.le_trans he (by decide)), hy, Option.bind_some, div?, hx, hunits,
    hnegative, Bool.bne_false, round?_mul_right _ _ _ hone]

/-- Few digits and a small power of ten are rounded once. -/
lemma scaled?_of_short (negative : Bool) {n : Nat} (hn : n ≤ twoPow 53) {e : Int} (hlow : -22 ≤ e)
    (hhigh : e ≤ 22) : scaled? negative n e = Decimal.toBinary64? ⟨negative, n, e⟩ := by
  obtain ⟨x, hx, hnegative, hunits⟩ := exists_round?_of_le negative hn
  have hexponent : ¬400 < e := by omega
  have hcoefficient : ¬n.log2 + 1101 < 3 * (-e).toNat := by omega
  rw [scaled?, hx, Option.bind_some]
  simp only [Decimal.toBinary64?, hexponent, hcoefficient, if_false]
  by_cases he : 0 ≤ e
  · rw [if_pos he, if_pos he, timesTenPower?_of_le hunits (by omega), hnegative]
    by_cases hzero : n = 0
    · rw [if_pos hzero, hzero, Nat.zero_mul, round?_zero]
    · rw [if_neg hzero]
  · rw [if_neg he, if_neg he, overTenPower?_of_le hunits (by omega), hnegative]
    by_cases hzero : n = 0
    · rw [if_pos hzero, hzero, round?_zero]
    · rw [if_neg hzero]

end Values

section Digits

lemma le_foldl_appendDigit (digits : List Char) (value : Nat) :
    value ≤ digits.foldl appendDigit value := by
  induction digits generalizing value with
  | nil => exact Nat.le_refl value
  | cons c digits ih =>
    have hstep : value ≤ appendDigit value c := by
      unfold appendDigit
      omega
    exact Nat.le_trans hstep (ih _)

lemma takeDigits_of_lt {digits : List Char} {value : Nat}
    (h : digits.foldl appendDigit value < 0x10000000000000000) :
    takeDigits value digits = (digits.foldl appendDigit value, []) := by
  induction digits generalizing value with
  | nil => rfl
  | cons c digits ih =>
    have hfit : appendDigit value c < 0x10000000000000000 :=
      Nat.lt_of_le_of_lt (le_foldl_appendDigit digits _) h
    rw [takeDigits, if_pos hfit, ih h]
    rfl

lemma significand_of_lt {n : Numeral}
    (h : digitsValue (n.whole ++ n.fraction) < 0x10000000000000000) :
    n.significand =
      (digitsValue (n.whole ++ n.fraction), n.power.getD 0 - n.fraction.length) := by
  have happend : digitsValue (n.whole ++ n.fraction) =
      n.fraction.foldl appendDigit (digitsValue n.whole) := List.foldl_append
  have hwhole : takeDigits 0 n.whole = (digitsValue n.whole, []) :=
    takeDigits_of_lt (Nat.lt_of_le_of_lt (le_foldl_appendDigit n.fraction _) (happend ▸ h))
  have hfraction := takeDigits_of_lt (happend ▸ h)
  rw [Numeral.significand, hwhole]
  simp only
  rw [hfraction, ← happend]
  simp
  omega

/-- A numeral of few digits and a small exponent is read as the nearest float, by the readers of
documents and of texts alike. -/
theorem toBinary64?_of_short {n : Numeral}
    (hdigits : digitsValue (n.whole ++ n.fraction) ≤ twoPow 53)
    (hlow : -22 ≤ n.power.getD 0 - n.fraction.length)
    (hhigh : n.power.getD 0 - n.fraction.length ≤ 22) :
    n.toBinary64? = Decimal.toBinary64?
      ⟨n.negative, digitsValue (n.whole ++ n.fraction), n.power.getD 0 - n.fraction.length⟩ := by
  have hword : digitsValue (n.whole ++ n.fraction) < 0x10000000000000000 :=
    Nat.lt_of_le_of_lt hdigits (by decide)
  rw [Numeral.toBinary64?, significand_of_lt hword]
  exact scaled?_of_short n.negative hdigits hlow hhigh

/-- With one digit too many the readers differ. -/
example : Numeral.toBinary64? ⟨false, ['9'], "204938554384977".toList, none⟩ ≠
    Decimal.toBinary64? ⟨false, 9204938554384977, -15⟩ := by decide +kernel

end Digits

end RuleChain.Proofs
