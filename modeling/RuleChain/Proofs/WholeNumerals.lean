import RuleChain.Number.Decimal
import RuleChain.Proofs.Interpolation
import RuleChain.Proofs.NearestInteger

/-!
# Whole numbers in texts

A text spells a whole number with ASCII digits, perhaps behind a sign. Main statements: the strict
reader takes exactly the spellings of signed words, and the reader of floating-point values takes
every spelling of a word for the value that the number is rounded to.
-/

namespace RuleChain.Proofs
open RuleChain.Text

/-- A text is a whole number in base ten: ASCII digits, perhaps behind a sign, and nothing else. -/
inductive SignedNumeral : List Char → Int → Prop where
  | intro {sign digits : List Char} (hsign : sign = [] ∨ sign = ['+'] ∨ sign = ['-'])
      (hdigits : isNumeral digits = true) :
      SignedNumeral (sign ++ digits) (signedValue (sign = ['-']) digits)

section Spelling

lemma head_of_isNumeral {digits : List Char} (h : isNumeral digits = true) :
    ∀ c ∈ digits.head?, c.isDigit = true :=
  fun c hc => (isNumeral_iff.1 h).2 c (List.mem_of_head? hc)

lemma signedNumeral_iff {s : List Char} {i : Int} :
    SignedNumeral s i ↔
      isNumeral (cutSign s).2 = true ∧ i = signedValue (cutSign s).1 (cutSign s).2 := by
  constructor
  · rintro ⟨rfl | rfl | rfl, hdigits⟩
    · rw [List.nil_append, cutSign_of_digit (head_of_isNumeral hdigits)]
      exact ⟨hdigits, rfl⟩
    · exact ⟨hdigits, rfl⟩
    · exact ⟨hdigits, rfl⟩
  · rintro ⟨hdigits, rfl⟩
    obtain ⟨sign, hsign, hs, hnegative⟩ := exists_sign s
    have hnumeral := SignedNumeral.intro hsign hdigits
    rwa [← hs, ← hnegative] at hnumeral

lemma natAbs_signedValue (negative : Bool) (digits : List Char) :
    (signedValue negative digits).natAbs = digitsValue digits := by
  unfold signedValue
  split <;> simp

lemma SignedNumeral.char {s : List Char} {i : Int} (h : SignedNumeral s i) {c : Char} (hc : c ∈ s) :
    c.isDigit = true ∨ c = '+' ∨ c = '-' := by
  obtain ⟨hsign, hdigits⟩ := h
  rcases List.mem_append.1 hc with hc | hc
  · rcases hsign with rfl | rfl | rfl
    · cases hc
    · exact .inr (.inl (List.mem_singleton.1 hc))
    · exact .inr (.inr (List.mem_singleton.1 hc))
  · exact .inl ((isNumeral_iff.1 hdigits).2 c hc)

lemma SignedNumeral.ne_nil {s : List Char} {i : Int} (h : SignedNumeral s i) : s ≠ [] := by
  obtain ⟨-, hdigits⟩ := h
  exact List.append_ne_nil_of_right_ne_nil _ (isNumeral_iff.1 hdigits).1

lemma SignedNumeral.not_isBlank {s : List Char} {i : Int} (h : SignedNumeral s i) {c : Char}
    (hc : c ∈ s) : isBlank c = false := by
  obtain hdigit | rfl | rfl := h.char hc
  · exact not_isBlank_of_isDigit hdigit
  · rfl
  · rfl

lemma signedNumeral_toString (n : Nat) : SignedNumeral (toString n).toList n := by
  have hnumeral := SignedNumeral.intro (.inl rfl) (isNumeral_toString n)
  rw [List.nil_append, signedValue, digitsValue_toString] at hnumeral
  exact hnumeral

end Spelling

section Reading

lemma readSigned?_eq_some_iff {s : List Char} {i : Int64} :
    readSigned? s = some i ↔ SignedNumeral s i.toInt := by
  rw [signedNumeral_iff, readSigned?, readDigits?]
  split
  · next hdigits =>
    simp only [Option.bind_some, Option.ite_none_right_eq_some, Option.some.injEq]
    rw [← signedValue]
    constructor
    · rintro ⟨hrange, rfl⟩
      have hmax : Int64.maxValue.toInt = 2 ^ 63 - 1 := by decide
      exact ⟨hdigits, (Int64.toInt_ofInt_of_le hrange.1 (by omega))⟩
    · rintro ⟨-, hi⟩
      rw [← hi]
      exact ⟨⟨i.minValue_le_toInt, i.toInt_le⟩, Int64.ofInt_toInt i⟩
  · next hdigits => simp [hdigits]

lemma decimal_read?_of_signedNumeral {s : List Char} {i : Int} (h : SignedNumeral s i) :
    Decimal.read? s = some ⟨(cutSign s).1, i.natAbs, 0⟩ := by
  obtain ⟨hdigits, rfl⟩ := signedNumeral_iff.1 h
  obtain ⟨hne, hall⟩ := isNumeral_iff.1 hdigits
  have htake : (cutSign s).2.takeWhile Char.isDigit = (cutSign s).2 :=
    List.takeWhile_eq_self_iff.2 hall
  have hdrop : (cutSign s).2.dropWhile Char.isDigit = [] := List.dropWhile_eq_nil_iff.2 hall
  simp [Decimal.read?, htake, hdrop, hne, Decimal.readExponent?, natAbs_signedValue]

/-- The value that a whole number of at most 65 bits is rounded to is in range. -/
lemma toBinary64?_of_lt (negative : Bool) {n : Nat} (h : n < twoPow 65) :
    ∃ x, Decimal.toBinary64? ⟨negative, n, 0⟩ = some x ∧
      x.negative = negative ∧ x.units = nearestNat n * Binary64.one := by
  have hfactor : n * tenPow (0 : Int).toNat = n := Nat.mul_one n
  rcases Nat.eq_zero_or_pos n with rfl | hpos
  · have hzero : (0 : Nat) = nearestNat 0 * Binary64.one := by
      rw [nearestNat_zero, Nat.zero_mul]
    exact ⟨.zero negative, rfl, rfl, hzero⟩
  · have hrange : Binary64.roundUnits (n * Binary64.one) 1 < Binary64.limit :=
      Binary64.roundUnits_lt_limit h
    refine ⟨⟨negative, _, hrange, Binary64.twoPow_excess_dvd_roundUnits _ _⟩, ?_, rfl,
      roundUnits_mul_one n⟩
    have hexponent : ¬(400 : Int) < 0 := by decide
    rw [Decimal.toBinary64?, if_neg hpos.ne', if_neg hexponent, if_pos (Int.le_refl 0)]
    simp only [Binary64.round?, hfactor, hrange, dite_true]

lemma nearest_signedValue (negative : Bool) (digits : List Char) :
    nearest (signedValue negative digits) =
      if negative then -(nearestNat (digitsValue digits) : Int)
      else nearestNat (digitsValue digits) := by
  cases negative with
  | false => exact nearest_natCast _
  | true => exact nearest_neg_natCast _

/-- A numeral is read as the value that its number is rounded to; a negative zero counts as zero. -/
lemma toBinary64?_of_signedNumeral {s : List Char} {i : Int} (h : SignedNumeral s i)
    (hi : i.natAbs < twoPow 65) :
    ∃ d x, Decimal.read? s = some d ∧ d.toBinary64? = some x ∧
      x.signedUnits = nearest i * Binary64.one ∧ x.truncate = nearest i := by
  obtain ⟨x, hx, hnegative, hunits⟩ := toBinary64?_of_lt (cutSign s).1 hi
  refine ⟨_, x, decimal_read?_of_signedNumeral h, hx, ?_⟩
  obtain ⟨-, rfl⟩ := signedNumeral_iff.1 h
  rw [natAbs_signedValue] at hunits
  rw [nearest_signedValue, Binary64.signedUnits, Binary64.truncate, hnegative, hunits,
    Nat.mul_div_cancel _ one_pos]
  refine ⟨?_, rfl⟩
  split
  · rw [Int.natCast_mul, Int.neg_mul]
  · exact Int.natCast_mul _ _

end Reading

end RuleChain.Proofs
