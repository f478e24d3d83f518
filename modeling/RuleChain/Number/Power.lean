/-!
# Powers of two and ten

The two powers that number formats are made of. They have names of their own, so that a large closed
power stays folded in a statement.
-/

namespace RuleChain

def twoPow (n : Nat) : Nat :=
  Nat.pow 2 n

def tenPow (n : Nat) : Nat :=
  Nat.pow 10 n

theorem twoPow_pos (n : Nat) : 0 < twoPow n :=
  Nat.two_pow_pos n

theorem twoPow_add (m n : Nat) : twoPow (m + n) = twoPow m * twoPow n :=
  Nat.pow_add 2 m n

theorem twoPow_dvd_twoPow {m n : Nat} (h : m ≤ n) : twoPow m ∣ twoPow n :=
  Nat.pow_dvd_pow 2 h

theorem twoPow_lt_twoPow {m n : Nat} (h : m < n) : twoPow m < twoPow n :=
  Nat.pow_lt_pow_right (by decide) h

theorem log2_lt_iff {m n : Nat} (h : m ≠ 0) : m.log2 < n ↔ m < twoPow n :=
  Nat.log2_lt h

end RuleChain
