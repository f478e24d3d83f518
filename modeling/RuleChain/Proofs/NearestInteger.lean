import Mathlib.Tactic.Lemma
import Mathlib.Tactic.Ring
import RuleChain.Number

/-!
# Whole numbers as floating-point values

A whole number becomes a floating-point value by rounding to 53 significant bits. What it is
rounded to is a whole number again, so order and truncation of the values can be read off whole
numbers. Main statements: rounding keeps the order, although it may make unequal numbers equal, no
number of 53 bits is nearer to a number than the one it is rounded to, and exactly the numbers of 53
bits stay as they are.
-/

namespace RuleChain.Proofs
open Binary64

/-- The multiple of the precision's step next to a whole number; half way between two of them it is
the even one. -/
def nearestNat (n : Nat) : Nat :=
  roundDiv n (twoPow (excess n)) * twoPow (excess n)

/-- The whole number of 53 bits next to a signed one. -/
def nearest (i : Int) : Int :=
  if i < 0 then -nearestNat i.natAbs else nearestNat i.natAbs

section Quotients

lemma le_roundDiv (num den : Nat) : num / den ≤ roundDiv num den := by
  unfold roundDiv
  dsimp only
  split
  · exact Nat.le_refl _
  · split <;> omega

lemma roundDiv_mul_right (num den : Nat) {k : Nat} (hk : 0 < k) :
    roundDiv (num * k) (den * k) = roundDiv num den := by
  have hless : ∀ a b : Nat, 2 * (a * k) < b * k ↔ 2 * a < b := by
    intro a b
    rw [← Nat.mul_assoc, Nat.mul_lt_mul_right hk]
  have hmore : ∀ a b : Nat, a * k < 2 * (b * k) ↔ a < 2 * b := by
    intro a b
    rw [← Nat.mul_assoc, Nat.mul_lt_mul_right hk]
  simp only [roundDiv, Nat.mul_div_mul_right _ _ hk, Nat.mul_mod_mul_right, hless, hmore]

lemma roundDiv_mono {num num' : Nat} (h : num ≤ num') (den : Nat) :
    roundDiv num den ≤ roundDiv num' den := by
  have hdiv : num / den ≤ num' / den := Nat.div_le_div_right h
  rcases Nat.lt_or_eq_of_le hdiv with hlt | heq
  · calc
      roundDiv num den ≤ num / den + 1 := roundDiv_le num den
      _ ≤ num' / den := hlt
      _ ≤ roundDiv num' den := le_roundDiv num' den
  · -- the same quotient, and a rest that is no smaller
    have hnum := Nat.div_add_mod num den
    have hnum' := Nat.div_add_mod num' den
    rw [← heq] at hnum'
    have hrest : num % den ≤ num' % den := by omega
    unfold roundDiv
    dsimp only
    rw [← heq]
    split_ifs <;> omega

/-- A rounded quotient is off by half a divisor at most. -/
lemma roundDiv_error {num den : Nat} (hden : 0 < den) :
    2 * ((roundDiv num den * den : Nat) - num : Int).natAbs ≤ den := by
  have hnum := Nat.div_add_mod num den
  have hmod := Nat.mod_lt num hden
  have hdown : num / den * den = den * (num / den) := Nat.mul_comm _ _
  have hup : (num / den + 1) * den = den * (num / den) + den := by ring
  unfold roundDiv
  dsimp only
  split
  · rw [hdown]
    omega
  · split
    · rw [hup]
      omega
    · rcases Nat.mod_two_eq_zero_or_one (num / den) with h | h
      · rw [h, Nat.add_zero, hdown]
        omega
      · rw [h, hup]
        omega

end Quotients

section Magnitudes

/-- A whole number of which no more than the upper 53 bits are used. -/
def Short (n : Nat) : Prop :=
  twoPow (excess n) ∣ n

instance (n : Nat) : Decidable (Short n) :=
  inferInstanceAs (Decidable (_ ∣ _))

lemma roundUnits_one (n : Nat) : roundUnits n 1 = nearestNat n := by
  simp [roundUnits, nearestNat]

lemma short_nearestNat (n : Nat) : Short (nearestNat n) := by
  rw [← roundUnits_one]
  exact twoPow_excess_dvd_roundUnits n 1

lemma short_of_le {n : Nat} (h : n ≤ twoPow 53) : Short n := by
  have hdvd : twoPow (excess (n * twoPow 0)) ∣ n * twoPow 0 := dvd_mul_twoPow h
  have hone : n * twoPow 0 = n := Nat.mul_one n
  rwa [hone] at hdvd

lemma nearestNat_eq_self_iff {n : Nat} : nearestNat n = n ↔ Short n := by
  constructor
  · intro h
    have hshort := short_nearestNat n
    rwa [h] at hshort
  · intro h
    rw [nearestNat, roundDiv_of_dvd (twoPow_pos _) h, Nat.div_mul_cancel h]

lemma twoPow_log2_le {n : Nat} (h : n ≠ 0) : twoPow n.log2 ≤ n :=
  Nat.log2_self_le h

lemma lt_twoPow_log2 (n : Nat) : n < twoPow (n.log2 + 1) :=
  Nat.lt_log2_self

lemma log2_mono {m n : Nat} (h : m ≤ n) : m.log2 ≤ n.log2 := by
  rcases Nat.eq_zero_or_pos m with rfl | hm
  · exact Nat.zero_le _
  · have hlt : m.log2 < n.log2 + 1 :=
      (log2_lt_iff (by omega)).2 (Nat.lt_of_le_of_lt h (lt_twoPow_log2 n))
    omega

/-- Beyond 53 bits the leading bit is a multiple of the step. -/
lemma twoPow_excess_dvd_log2 {n : Nat} (h : 52 ≤ n.log2) : twoPow (excess n) ∣ twoPow n.log2 := by
  apply twoPow_dvd_twoPow
  rw [excess]
  omega

/-- Rounding does not pass over a multiple of the step below the number. -/
lemma le_nearestNat_of_dvd {m n : Nat} (hdvd : twoPow (excess n) ∣ m) (h : m ≤ n) :
    m ≤ nearestNat n := by
  have hquotient : m / twoPow (excess n) ≤ roundDiv n (twoPow (excess n)) :=
    (Nat.div_le_div_right h).trans (le_roundDiv _ _)
  calc
    m = m / twoPow (excess n) * twoPow (excess n) := (Nat.div_mul_cancel hdvd).symm
    _ ≤ nearestNat n := Nat.mul_le_mul_right _ hquotient

/-- Nor over one above it. -/
lemma nearestNat_le_of_dvd {m n : Nat} (hdvd : twoPow (excess n) ∣ m) (h : n ≤ m) :
    nearestNat n ≤ m := by
  have hquotient : roundDiv n (twoPow (excess n)) ≤ m / twoPow (excess n) := by
    rw [← roundDiv_of_dvd (twoPow_pos _) hdvd]
    exact roundDiv_mono h _
  calc
    nearestNat n ≤ m / twoPow (excess n) * twoPow (excess n) := Nat.mul_le_mul_right _ hquotient
    _ = m := Nat.div_mul_cancel hdvd

lemma nearestNat_mono {m n : Nat} (h : m ≤ n) : nearestNat m ≤ nearestNat n := by
  rcases Nat.lt_or_ge m.log2 n.log2 with hlog | hlog
  · -- a power of two lies between the numbers, and stays as it is
    have hn : n ≠ 0 := by
      rintro rfl
      exact absurd hlog (Nat.not_lt_zero _)
    rcases Nat.lt_or_ge n.log2 52 with hsmall | hlarge
    · have hlt : n < twoPow 53 := (log2_lt_iff hn).1 (by omega)
      have hm' : Short m := short_of_le (by omega)
      have hn' : Short n := short_of_le (by omega)
      rwa [nearestNat_eq_self_iff.2 hm', nearestNat_eq_self_iff.2 hn']
    · have hbelow : m ≤ twoPow n.log2 :=
        (lt_twoPow_log2 m).le.trans (Nat.pow_le_pow_right (by decide) hlog)
      have hdvd : twoPow (excess m) ∣ twoPow n.log2 := by
        apply twoPow_dvd_twoPow
        rw [excess]
        omega
      calc
        nearestNat m ≤ twoPow n.log2 := nearestNat_le_of_dvd hdvd hbelow
        _ ≤ nearestNat n := le_nearestNat_of_dvd (twoPow_excess_dvd_log2 hlarge) (twoPow_log2_le hn)
  · -- the numbers have the same step
    have hlogs : m.log2 = n.log2 := Nat.le_antisymm (log2_mono h) hlog
    have hsteps : excess m = excess n := by rw [excess, excess, hlogs]
    rw [nearestNat, nearestNat, hsteps]
    exact Nat.mul_le_mul_right _ (roundDiv_mono h _)

/-- A number of 53 bits is a multiple of the step of every number below it. -/
lemma Short.dvd_of_le {n s : Nat} (hs : Short s) (h : n ≤ s) : twoPow (excess n) ∣ s := by
  have hlog : n.log2 ≤ s.log2 := log2_mono h
  refine (twoPow_dvd_twoPow ?_).trans hs
  rw [excess, excess]
  omega

/-- Between a number of 53 bits and a greater number there is a multiple of the step. -/
lemma Short.exists_dvd_of_le {n s : Nat} (hs : Short s) (h : s ≤ n) :
    ∃ m, twoPow (excess n) ∣ m ∧ s ≤ m ∧ m ≤ n := by
  rcases Nat.eq_or_lt_of_le (log2_mono h) with hlog | hlog
  · have hstep : excess n = excess s := by rw [excess, excess, hlog]
    exact ⟨s, hstep ▸ hs, Nat.le_refl s, h⟩
  · rcases Nat.lt_or_ge n.log2 52 with hsmall | hlarge
    · have hstep : excess n = 0 := by
        rw [excess]
        omega
      exact ⟨s, hstep ▸ Nat.one_dvd s, Nat.le_refl s, h⟩
    · have hn : n ≠ 0 := by
        rintro rfl
        exact absurd hlog (Nat.not_lt_zero _)
      have hbelow : s ≤ twoPow n.log2 :=
        (lt_twoPow_log2 s).le.trans (Nat.pow_le_pow_right (by decide) hlog)
      exact ⟨_, twoPow_excess_dvd_log2 hlarge, hbelow, twoPow_log2_le hn⟩

lemma add_le_of_dvd {step m m' : Nat} (h : step ∣ m) (h' : step ∣ m') (hlt : m < m') :
    m + step ≤ m' := by
  have hdiff : step ∣ m' - m := Nat.dvd_sub h' h
  have hle : step ≤ m' - m := Nat.le_of_dvd (by omega) hdiff
  omega

/-- No number of 53 bits is nearer than the one that is rounded to. -/
lemma nearestNat_closest (n : Nat) {s : Nat} (hs : Short s) :
    ((nearestNat n : Int) - n).natAbs ≤ ((s : Int) - n).natAbs := by
  have herror : 2 * ((nearestNat n : Int) - n).natAbs ≤ twoPow (excess n) :=
    roundDiv_error (twoPow_pos _)
  have hgrid : twoPow (excess n) ∣ nearestNat n := Nat.dvd_mul_left _ _
  rcases Nat.le_total s n with hle | hle
  · obtain ⟨m, hdvd, hsm, hmn⟩ := hs.exists_dvd_of_le hle
    rcases Nat.lt_or_ge n (nearestNat n) with hup | hdown
    · have hstep : m + twoPow (excess n) ≤ nearestNat n := add_le_of_dvd hdvd hgrid (by omega)
      omega
    · have hbetween : m ≤ nearestNat n := le_nearestNat_of_dvd hdvd hmn
      omega
  · have hdvd : twoPow (excess n) ∣ s := hs.dvd_of_le hle
    rcases Nat.lt_or_ge (nearestNat n) n with hdown | hup
    · have hstep : nearestNat n + twoPow (excess n) ≤ s := add_le_of_dvd hgrid hdvd (by omega)
      omega
    · have hbetween : nearestNat n ≤ s := nearestNat_le_of_dvd hdvd hle
      omega

end Magnitudes

section Signs

lemma nearest_natCast (n : Nat) : nearest n = nearestNat n := by
  simp [nearest]

lemma nearestNat_zero : nearestNat 0 = 0 :=
  nearestNat_eq_self_iff.2 (short_of_le (Nat.zero_le _))

lemma nearest_neg_natCast (n : Nat) : nearest (-n) = -nearestNat n := by
  rcases Nat.eq_zero_or_pos n with rfl | hpos
  · simp [nearest, nearestNat_zero]
  · have hneg : -(n : Int) < 0 := by omega
    rw [nearest, if_pos hneg, Int.natAbs_neg, Int.natAbs_natCast]

lemma nearest_mono {i j : Int} (h : i ≤ j) : nearest i ≤ nearest j := by
  unfold nearest
  split <;> split
  · have hle : nearestNat j.natAbs ≤ nearestNat i.natAbs := nearestNat_mono (by omega)
    omega
  · omega
  · omega
  · have hle : nearestNat i.natAbs ≤ nearestNat j.natAbs := nearestNat_mono (by omega)
    omega

lemma nearest_eq_self_iff {i : Int} : nearest i = i ↔ Short i.natAbs := by
  rw [← nearestNat_eq_self_iff, nearest]
  split <;> omega

lemma short_nearest (i : Int) : Short (nearest i).natAbs := by
  have hshort := short_nearestNat i.natAbs
  unfold nearest
  split
  · rwa [Int.natAbs_neg, Int.natAbs_natCast]
  · rwa [Int.natAbs_natCast]

/-- Numbers keep their order if they are told apart after rounding. -/
lemma nearest_lt_iff {i j : Int} : nearest i < nearest j ↔ i < j ∧ nearest i ≠ nearest j := by
  constructor
  · intro h
    refine ⟨?_, h.ne⟩
    by_contra hnot
    exact absurd (nearest_mono (Int.not_lt.1 hnot)) (Int.not_le.2 h)
  · rintro ⟨hlt, hne⟩
    exact lt_of_le_of_ne (nearest_mono hlt.le) hne

lemma nearest_le_iff {i j : Int} : nearest i ≤ nearest j ↔ i ≤ j ∨ nearest i = nearest j := by
  rw [← Int.not_lt, nearest_lt_iff, not_and_or, Int.not_lt, not_not]
  exact or_congr_right eq_comm

/-- Of the numbers of 53 bits none is nearer than the one that is rounded to. -/
lemma nearest_closest (i : Int) {s : Int} (hs : Short s.natAbs) :
    (nearest i - i).natAbs ≤ (s - i).natAbs := by
  have hclosest := nearestNat_closest i.natAbs hs
  -- on the other side of zero, zero itself is nearer
  have hzero := nearestNat_closest i.natAbs (short_of_le (Nat.zero_le _))
  unfold nearest
  split <;> omega

/-- Next to a number of less than 53 bits no other number is rounded to the same one. -/
lemma nearest_eq_iff {i j : Int} (h : i.natAbs < twoPow 53 ∨ j.natAbs < twoPow 53) :
    nearest i = nearest j ↔ i = j := by
  have hself : ∀ k : Int, k.natAbs ≤ twoPow 53 → nearest k = k :=
    fun k hk => nearest_eq_self_iff.2 (short_of_le hk)
  have hapart : ∀ k l : Int, k.natAbs < twoPow 53 → k < l → nearest k < nearest l := by
    intro k l hk hlt
    have hstep : nearest (k + 1) ≤ nearest l := nearest_mono hlt
    rw [hself (k + 1) (by omega)] at hstep
    rw [hself k (by omega)]
    omega
  have hapart' : ∀ k l : Int, k.natAbs < twoPow 53 → l < k → nearest l < nearest k := by
    intro k l hk hlt
    have hstep : nearest l ≤ nearest (k - 1) := nearest_mono (by omega)
    rw [hself (k - 1) (by omega)] at hstep
    rw [hself k (by omega)]
    omega
  refine ⟨fun heq => ?_, fun heq => heq ▸ rfl⟩
  by_contra hne
  obtain hlt | hlt := Int.lt_or_gt_of_ne hne
  · obtain hi | hj := h
    · exact absurd heq (hapart i j hi hlt).ne
    · exact absurd heq (hapart' j i hj hlt).ne
  · obtain hi | hj := h
    · exact absurd heq (hapart' i j hi hlt).ne'
    · exact absurd heq (hapart j i hj hlt).ne'

end Signs

section Values

lemma one_pos : 0 < one :=
  twoPow_pos _

lemma log2_mul_one {n : Nat} (h : n ≠ 0) : (n * one).log2 = n.log2 + fractionBits := by
  have hne : n * one ≠ 0 := Nat.mul_ne_zero h one_pos.ne'
  have hlow : ¬(n * one).log2 < n.log2 + fractionBits := by
    rw [log2_lt_iff hne, twoPow_add, Nat.not_lt]
    exact Nat.mul_le_mul_right _ (twoPow_log2_le h)
  have hhigh : (n * one).log2 < n.log2 + 1 + fractionBits := by
    rw [log2_lt_iff hne, twoPow_add]
    exact Nat.mul_lt_mul_of_pos_right (lt_twoPow_log2 n) one_pos
  omega

/-- Rounding a whole number in units is rounding it by itself. -/
lemma roundUnits_mul_one (n : Nat) : roundUnits (n * one) 1 = nearestNat n * one := by
  rcases Nat.eq_zero_or_pos n with rfl | hpos
  · simp [roundUnits, nearestNat, roundDiv]
  have hlog : (n * one).log2 = n.log2 + fractionBits := log2_mul_one hpos.ne'
  rw [roundUnits_one, nearestNat]
  rcases Nat.lt_or_ge n.log2 53 with hsmall | hlarge
  · -- the step in units is no more than one
    have hdvd : twoPow (excess (n * one)) ∣ n * one := by
      have hstep : excess (n * one) ≤ fractionBits := by
        rw [excess, hlog]
        omega
      exact (twoPow_dvd_twoPow hstep).trans (Nat.dvd_mul_left _ _)
    have hshort : Short n := short_of_le ((log2_lt_iff hpos.ne').1 hsmall).le
    rw [roundDiv_of_dvd (twoPow_pos _) hdvd, Nat.div_mul_cancel hdvd,
      nearestNat_eq_self_iff.2 hshort]
  · have hstep : excess (n * one) = excess n + fractionBits := by
      rw [excess, excess, hlog]
      omega
    have hunits : twoPow (excess n + fractionBits) = twoPow (excess n) * one := twoPow_add _ _
    rw [hstep, hunits, roundDiv_mul_right _ _ one_pos, ← Nat.mul_assoc, nearestNat]

lemma signedUnits_ofInt {i : Int} (h : i.natAbs < twoPow 65) :
    (ofInt i h).signedUnits = nearest i * one := by
  simp only [signedUnits, ofInt, nearest, roundUnits_mul_one, decide_eq_true_eq, Int.natCast_mul]
  split
  · exact (Int.neg_mul _ _).symm
  · rfl

end Values

end RuleChain.Proofs
