/-!
# Numerals

Reading whole numbers in base ten. A numeral is a run of ASCII digits; a count may carry a plus
sign and a signed number either sign. What does not fit a 64-bit word is not read.
-/

namespace RuleChain.Text

def appendDigit (n : Nat) (c : Char) : Nat :=
  10 * n + (c.toNat - '0'.toNat)

def digitsValue (s : List Char) : Nat :=
  s.foldl appendDigit 0

/-- Whether there is at least one character and all are ASCII digits. -/
def isNumeral (s : List Char) : Bool :=
  !s.isEmpty && s.all Char.isDigit

def readDigits? (s : List Char) : Option Nat :=
  if isNumeral s then some (digitsValue s) else none

/-- The value of a count: a numeral below `2 ^ 64`, perhaps after a plus sign. -/
def readCount? (s : List Char) : Option Nat :=
  (readDigits? (if s.head? = some '+' then s.tail else s)).filter (· < 0x10000000000000000)

def cutSign : List Char → Bool × List Char
  | '-' :: s => (true, s)
  | '+' :: s => (false, s)
  | s => (false, s)

/-- The value of a signed number in the range of 64-bit words. -/
def readSigned? (s : List Char) : Option Int64 :=
  (readDigits? (cutSign s).2).bind fun n =>
    let i : Int := if (cutSign s).1 then -n else n
    if Int64.minValue.toInt ≤ i ∧ i ≤ Int64.maxValue.toInt then some (.ofInt i) else none

/-- The digits of a number have its value. -/
theorem digitsValue_toDigits (n : Nat) : digitsValue (Nat.toDigits 10 n) = n := by
  induction n using Nat.strongRecOn with
  | ind n ih =>
    have hdigit : ∀ d < 10, (Nat.digitChar d).toNat - '0'.toNat = d := by decide
    rw [Nat.toDigits_eq_if (by decide)]
    split
    · next h => simpa [digitsValue, appendDigit] using hdigit n h
    · next h =>
      have hfront : digitsValue (Nat.toDigits 10 (n / 10)) = n / 10 := ih (n / 10) (by omega)
      rw [digitsValue] at hfront ⊢
      rw [List.foldl_append, hfront, List.foldl_cons, List.foldl_nil, appendDigit,
        hdigit _ (Nat.mod_lt n (by decide))]
      omega

theorem digitsValue_toString (n : Nat) : digitsValue (toString n).toList = n := by
  have h : toString n = String.ofList (Nat.toDigits 10 n) := Nat.repr_eq_ofList_toDigits
  rw [h, String.toList_ofList, digitsValue_toDigits]

theorem isNumeral_iff {s : List Char} :
    isNumeral s = true ↔ s ≠ [] ∧ ∀ c ∈ s, c.isDigit = true := by
  simp [isNumeral]

theorem isNumeral_toString (n : Nat) : isNumeral (toString n).toList = true := by
  have h : toString n = String.ofList (Nat.toDigits 10 n) := Nat.repr_eq_ofList_toDigits
  rw [h, String.toList_ofList, isNumeral_iff]
  exact ⟨Nat.toDigits_ne_nil, fun c hc => Nat.isDigit_of_mem_toDigits (by decide) (by decide) hc⟩

/-- A numeral does not begin with a sign. -/
theorem head?_ne_of_isNumeral {s : List Char} (h : isNumeral s = true) {c : Char}
    (hc : c.isDigit = false) : s.head? ≠ some c := by
  intro hhead
  rw [(isNumeral_iff.1 h).2 c (List.mem_of_head? hhead)] at hc
  cases hc

theorem readCount?_of_isNumeral {s : List Char} (h : isNumeral s = true) :
    readCount? s = if digitsValue s < 0x10000000000000000 then some (digitsValue s) else none := by
  rw [readCount?, if_neg (head?_ne_of_isNumeral h rfl), readDigits?, if_pos h, Option.filter_some]
  simp only [decide_eq_true_eq]

end RuleChain.Text
