/-!
# Blanks

The characters that count as white space, and trimming. Both ends are trimmed by a predicate on
characters, so that blanks and any given set of characters are trimmed alike.
-/

namespace RuleChain.Text

def isBlank (c : Char) : Bool :=
  let n := c.toNat
  (9 ≤ n && n ≤ 13) || n == 0x20 || n == 0x85 || n == 0xA0 || n == 0x1680 ||
    (0x2000 ≤ n && n ≤ 0x200A) || n == 0x2028 || n == 0x2029 || n == 0x202F || n == 0x205F ||
    n == 0x3000

def trimStartChars (p : Char → Bool) (s : List Char) : List Char :=
  s.dropWhile p

def trimEndChars (p : Char → Bool) (s : List Char) : List Char :=
  (s.reverse.dropWhile p).reverse

def trimChars (p : Char → Bool) (s : List Char) : List Char :=
  trimEndChars p (trimStartChars p s)

def trimWhere (p : Char → Bool) (s : String) : String :=
  .ofList (trimChars p s.toList)

def trim (s : String) : String :=
  trimWhere isBlank s

def allBlank (s : String) : Bool :=
  s.toList.all isBlank

/-- Nothing is trimmed before a character that is kept. -/
theorem trimStartChars_eq_self {p : Char → Bool} {s : List Char}
    (h : ∀ c ∈ s.head?, p c = false) : trimStartChars p s = s := by
  cases s with
  | nil => rfl
  | cons c s => simp [trimStartChars, h c rfl]

theorem trimEndChars_eq_self {p : Char → Bool} {s : List Char}
    (h : ∀ c ∈ s.getLast?, p c = false) : trimEndChars p s = s := by
  rw [← List.head?_reverse] at h
  have hstart : s.reverse.dropWhile p = s.reverse := trimStartChars_eq_self h
  rw [trimEndChars, hstart, List.reverse_reverse]

theorem length_trimChars_le (p : Char → Bool) (s : List Char) :
    (trimChars p s).length ≤ s.length := by
  have h₁ := (List.dropWhile_sublist p (l := s)).length_le
  have h₂ := (List.dropWhile_sublist p (l := (s.dropWhile p).reverse)).length_le
  simp only [trimChars, trimEndChars, trimStartChars, List.length_reverse] at *
  omega

end RuleChain.Text
