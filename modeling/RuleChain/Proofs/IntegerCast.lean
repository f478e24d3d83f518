import Mathlib.Data.List.DropRight
import RuleChain.Builtin.Cast
import RuleChain.Proofs.WholeNumerals
import RuleChain.Rule.Judgement

/-!
# Strict and lenient integer casts

The strict cast takes the numeral of a text as it is; the lenient one takes the number that the text
starts with through a floating-point value. Main statement: on whatever the strict cast takes the
lenient one answers too, with the same integer for numbers, and for texts with the integer that the
spelled one is rounded to. The two answers are the same exactly for integers of 53 bits and for the
greatest word.
-/

namespace RuleChain.Proofs
open RuleChain.Text

section Front

/-- Digits are read up to a character that is no digit and no point. -/
lemma numberRun_append {digits rest : List Char} (hdigits : ∀ c ∈ digits, c.isDigit = true)
    (hrest : ∀ c ∈ rest.head?, c.isDigit = false ∧ c ≠ '.') (pointAllowed : Bool) :
    Tree.numberRun pointAllowed (digits ++ rest) = digits := by
  induction digits with
  | nil =>
    cases rest with
    | nil => rfl
    | cons c rest =>
      obtain ⟨hdigit, hpoint⟩ := hrest c rfl
      simp [Tree.numberRun, hdigit, hpoint]
  | cons c digits ih =>
    have hc : c.isDigit = true := hdigits c List.mem_cons_self
    rw [List.cons_append, Tree.numberRun, if_pos hc,
      ih fun d h => hdigits d (List.mem_cons_of_mem _ h)]

/-- The number at the front of a signed numeral with something behind it is the numeral. -/
lemma leadingNumber_append {s numeral rest : List Char} {i : Int}
    (hs : trimStartChars isBlank s = numeral ++ rest) (h : SignedNumeral numeral i)
    (hrest : ∀ c ∈ rest.head?, c.isDigit = false ∧ c ≠ '.') : Tree.leadingNumber s = numeral := by
  obtain @⟨sign, digits, hsign, hdigits⟩ := h
  have hall := (isNumeral_iff.1 hdigits).2
  have hrun := numberRun_append hall hrest true
  rw [Tree.leadingNumber, hs]
  rcases hsign with rfl | rfl | rfl
  · obtain ⟨c, digits, rfl⟩ := List.exists_cons_of_ne_nil (isNumeral_iff.1 hdigits).1
    have hc : c.isDigit = true := hall c List.mem_cons_self
    rw [List.nil_append, List.cons_append]
    rw [List.cons_append] at hrun
    split
    · next heq => exact absurd ((List.cons.inj heq).1 ▸ hc) (by decide)
    · next heq => exact absurd ((List.cons.inj heq).1 ▸ hc) (by decide)
    · exact hrun
  · exact congrArg ('+' :: ·) hrun
  · exact congrArg ('-' :: ·) hrun

/-- Around a trimmed numeral there are only blanks. -/
lemma leadingNumber_of_trimmed {s : List Char} {i : Int}
    (h : SignedNumeral (trimChars isBlank s) i) :
    Tree.leadingNumber s = trimChars isBlank s := by
  have hstart : trimStartChars isBlank s =
      trimChars isBlank s ++ (trimStartChars isBlank s).rtakeWhile isBlank :=
    List.rdropWhile_append_rtakeWhile.symm
  refine leadingNumber_append hstart h fun c hc => ?_
  have hblank : isBlank c = true := List.mem_rtakeWhile_imp (List.mem_of_head? hc)
  constructor
  · by_contra hdigit
    rw [not_isBlank_of_isDigit (by simpa using hdigit)] at hblank
    cases hblank
  · rintro rfl
    cases hblank

end Front

section Words

lemma clampInt64_of_range {i : Int} (h : Int64.minValue.toInt ≤ i ∧ i ≤ Int64.maxValue.toInt) :
    clampInt64 i = .ofInt i := by
  rw [clampInt64, if_neg (Int.not_lt.2 h.1), if_neg (Int.not_lt.2 h.2)]

/-- Rounded to 53 bits and put in range again, a word comes back exactly if it has no more than 53
bits or is the greatest one. -/
lemma clampInt64_nearest_eq_iff {i : Int64} :
    clampInt64 (nearest i.toInt) = i ↔ Short i.toInt.natAbs ∨ i = Int64.maxValue := by
  have hleast : nearest Int64.minValue.toInt = Int64.minValue.toInt :=
    nearest_eq_self_iff.2 (by decide)
  have hgreatest : Int64.maxValue.toInt < nearest Int64.maxValue.toInt := by decide
  have hlow : Int64.minValue.toInt ≤ nearest i.toInt := by
    rw [← hleast]
    exact nearest_mono i.minValue_le_toInt
  rw [← nearest_eq_self_iff]
  rcases lt_or_ge Int64.maxValue.toInt (nearest i.toInt) with hover | hrange
  · have hne : nearest i.toInt ≠ i.toInt := by
      have hle := i.toInt_le
      omega
    rw [clampInt64, if_neg (Int.not_lt.2 hlow), if_pos hover, or_iff_right hne]
    exact eq_comm
  · have hne : i ≠ Int64.maxValue := by
      rintro rfl
      omega
    have hback : (Int64.ofInt (nearest i.toInt)).toInt = nearest i.toInt :=
      Int64.toInt_ofInt_of_le hlow (by
        have hmax : Int64.maxValue.toInt = 2 ^ 63 - 1 := by decide
        omega)
    rw [clampInt64_of_range ⟨hlow, hrange⟩, or_iff_left hne, ← Int64.toInt_inj, hback]

end Words

section Casts

/-- Of a number that equals a word nothing is cut off. -/
lemma truncateInt64_of_toInt64? {n : Number} {i : Int64} (h : n.toInt64? = some i) :
    n.truncateInt64 = i := by
  unfold Number.toInt64? at h
  unfold Number.truncateInt64
  cases hword : n.word? with
  | some j =>
    simp only [hword, Option.some.injEq] at h
    exact h
  | none =>
    simp only [hword, Option.ite_none_right_eq_some, Option.some.injEq] at h
    obtain ⟨⟨-, hrange⟩, rfl⟩ := h
    exact clampInt64_of_range hrange

lemma castInteger_text {s : String} {i : Int64}
    (h : readSigned? (trimChars isBlank s.toList) = some i) :
    (Tree.text s).castInteger = clampInt64 (nearest i.toInt) := by
  have hnumeral : SignedNumeral (trimChars isBlank s.toList) i.toInt := readSigned?_eq_some_iff.1 h
  have hbits : i.toInt.natAbs < twoPow 65 := Number.natAbs_lt_of_isWord (Number.isWord_toInt i)
  obtain ⟨d, x, hread, hvalue, -, htruncate⟩ := toBinary64?_of_signedNumeral hnumeral hbits
  rw [Tree.castInteger, leadingNumber_of_trimmed hnumeral, hread, Option.map_some, Option.getD_some,
    Decimal.toInt64, hvalue]
  exact congrArg clampInt64 htruncate

variable {settings : Settings} {registry : Registry Handler} {call : Call} {value : Tree}

lemma ofInt64_inj {i j : Int64} : Tree.ofInt64 i = Tree.ofInt64 j ↔ i = j := by
  simp only [Tree.ofInt64, Tree.number.injEq, Number.ofInt64, Number.integer.injEq, Int64.toInt_inj]

lemma judge_toInteger_iff {i : Int64} :
    Handler.judge settings registry Builtin.toInteger call value = .ok (.proceed (.ofInt64 i)) ↔
      value.toInteger? = some i := by
  rw [Builtin.toInteger, Handler.convert, Handler.judge]
  cases h : value.toInteger? with
  | none => simp [Verdict.proceed, Verdict.fail]
  | some j => simp [Verdict.proceed, ofInt64_inj]

lemma judge_castInteger :
    Handler.judge settings registry Builtin.castInteger call value =
      .ok (.proceed (.ofInt64 value.castInteger)) := by
  rw [Builtin.castInteger, Handler.transform, Handler.judge]

end Casts

/-- Where the strict cast gives an integer, the lenient one gives the same for a number. For a text
it gives what the integer is rounded to, put in range again, and that is the same exactly if the
integer has no more than 53 bits or is the greatest word. No number of 53 bits is nearer than the one
that is rounded to. -/
theorem lenient_cast_rounds_integers_of_texts {settings : Settings} {registry : Registry Handler}
    {call : Call} {value : Tree} {i : Int64}
    (h : Handler.judge settings registry Builtin.toInteger call value =
      .ok (.proceed (.ofInt64 i))) (other : Call) :
    let Cast := fun j : Int64 =>
      Handler.judge settings registry Builtin.castInteger other value = .ok (.proceed (.ofInt64 j))
    ((∃ n, value = .number n) ∧ Cast i ∨
      (∃ s, value = .text s) ∧ Cast (clampInt64 (nearest i.toInt)) ∧
        (Cast i ↔ Short i.toInt.natAbs ∨ i = Int64.maxValue)) ∧
    Short (nearest i.toInt).natAbs ∧
    ∀ k : Int, Short k.natAbs → (nearest i.toInt - i.toInt).natAbs ≤ (k - i.toInt).natAbs := by
  intro Cast
  have hcast : ∀ j, Cast j ↔ value.castInteger = j := by
    intro j
    simp only [Cast, judge_castInteger, Except.ok.injEq, Verdict.proceed, Verdict.mk.injEq,
      true_and, ofInt64_inj]
  have hstrict := judge_toInteger_iff.1 h
  refine ⟨?_, short_nearest i.toInt, fun k hk => nearest_closest i.toInt hk⟩
  cases value with
  | number n => exact .inl ⟨⟨n, rfl⟩, (hcast i).2 (truncateInt64_of_toInt64? hstrict)⟩
  | text s =>
    have hlenient : (Tree.text s).castInteger = clampInt64 (nearest i.toInt) :=
      castInteger_text hstrict
    refine .inr ⟨⟨s, rfl⟩, (hcast _).2 hlenient, ?_⟩
    rw [hcast, hlenient, clampInt64_nearest_eq_iff]
  | _ => cases hstrict

section Sample

/-- One less than the greatest word, between blanks. -/
def highText : Tree :=
  .text " +9223372036854775806\n"

/-- One more than a number of 53 bits. -/
def longText : Tree :=
  .text "9007199254740993"

lemma highText_toInteger : highText.toInteger? = some 9223372036854775806 := by decide

lemma longText_toInteger : longText.toInteger? = some 9007199254740993 := by decide

/-- The integer is rounded to a number that is out of range. -/
theorem high_text_is_cast_to_greatest_word :
    Handler.judge {} {} Builtin.toInteger ⟨"toInteger", "", "toInteger"⟩ highText =
        .ok (.proceed (.ofInt64 9223372036854775806)) ∧
      Handler.judge {} {} Builtin.castInteger ⟨"castInteger", "", "castInteger"⟩ highText =
        .ok (.proceed (.ofInt64 Int64.maxValue)) := by
  have hstrict : Handler.judge {} {} Builtin.toInteger ⟨"toInteger", "", "toInteger"⟩ highText =
      .ok (.proceed (.ofInt64 9223372036854775806)) := judge_toInteger_iff.2 highText_toInteger
  have hrounded : clampInt64 (nearest (9223372036854775806 : Int64).toInt) = Int64.maxValue := by
    decide
  obtain ⟨⟨⟨n, hn⟩, -⟩ | ⟨-, hlenient, -⟩, -, -⟩ :=
    lenient_cast_rounds_integers_of_texts hstrict ⟨"castInteger", "", "castInteger"⟩
  · cases hn
  · exact ⟨hstrict, hrounded ▸ hlenient⟩

lemma longText_castInteger : longText.castInteger = 9007199254740992 := by
  have hread : readSigned? (trimChars isBlank "9007199254740993".toList) =
      some 9007199254740993 := by decide
  rw [longText, castInteger_text hread]
  decide

/-- The lenient cast changes an integer that is far from the ends of the range. -/
theorem long_text_is_cast_to_two_integers :
    Handler.judge {} {} Builtin.toInteger ⟨"toInteger", "", "toInteger"⟩ longText =
        .ok (.proceed (.ofInt64 9007199254740993)) ∧
      Handler.judge {} {} Builtin.castInteger ⟨"castInteger", "", "castInteger"⟩ longText =
        .ok (.proceed (.ofInt64 9007199254740992)) ∧
      (9007199254740992 : Int64) ≠ 9007199254740993 := by
  refine ⟨judge_toInteger_iff.2 longText_toInteger, ?_, by decide⟩
  rw [judge_castInteger, longText_castInteger]

end Sample

end RuleChain.Proofs
