import Mathlib.Algebra.Group.Int.Defs
import Mathlib.Algebra.Group.Nat.Defs
import Mathlib.Data.List.Basic
import Mathlib.Data.List.TakeWhile
import Mathlib.Tactic.Lemma
import RuleChain.Message.Template

/-!
# Filled templates

A template is written from parts: literal text with each percent sign doubled, and directives, which
take the next argument or name theirs by a number. Main statement: filling in a template writes the
literal texts as they are and each argument once, in the place of its directive. What the parts of a
template are is read off the template alone, so no text of an argument is ever taken for a
directive.
-/

namespace RuleChain.Proofs
open Message Text

section Templates

def letter : Conversion → Char
  | .text => 's'
  | .integer => 'd'

/-- A part of a template. Arguments are numbered from one, and numbers fit a word. -/
inductive Part where
  | literal (text : String)
  /-- A directive for the next argument, in the order of such directives. -/
  | inTurn (conversion : Conversion)
  | numbered (number : Nat) (h : 0 < number ∧ number < 2 ^ 64) (conversion : Conversion)

def doubled (s : List Char) : List Char :=
  s.flatMap fun c => if c = '%' then ['%', '%'] else [c]

def Part.written : Part → List Char
  | literal text => doubled text.toList
  | inTurn conversion => ['%', letter conversion]
  | numbered number _ conversion => '%' :: ((toString number).toList ++ ['$', letter conversion])

def written (parts : List Part) : String :=
  .ofList (parts.flatMap Part.written)

/-- What makes a percent sign more than a character: another one behind it, the letter of a
conversion, or a number, a dollar sign and such a letter. -/
inductive StartsDirective : List Char → Prop where
  | percent (s : List Char) : StartsDirective ('%' :: s)
  | inTurn (conversion : Conversion) (s : List Char) : StartsDirective (letter conversion :: s)
  | numbered {digits : List Char} (h : isNumeral digits = true) (conversion : Conversion)
      (s : List Char) : StartsDirective (digits ++ '$' :: letter conversion :: s)

/-- A template is read as parts. Besides what is written for parts, a percent sign that starts no
directive is itself, and a directive with a number that counts no argument takes the first one. -/
inductive Reads : List Char → List Part → Prop where
  | nil : Reads [] []
  | literal {s parts} (text : String) (h : Reads s parts) :
      Reads (doubled text.toList ++ s) (.literal text :: parts)
  | inTurn {s parts} (conversion : Conversion) (h : Reads s parts) :
      Reads ('%' :: letter conversion :: s) (.inTurn conversion :: parts)
  | numbered {digits number s parts} (hdigits : isNumeral digits = true)
      (hvalue : digitsValue digits = number) (hnumber : 0 < number ∧ number < 2 ^ 64)
      (conversion : Conversion) (h : Reads s parts) :
      Reads ('%' :: (digits ++ '$' :: letter conversion :: s))
        (.numbered number hnumber conversion :: parts)
  | miscounted {digits s parts} (hdigits : isNumeral digits = true)
      (hnumber : ¬(0 < digitsValue digits ∧ digitsValue digits < 2 ^ 64)) (conversion : Conversion)
      (h : Reads s parts) :
      Reads ('%' :: (digits ++ '$' :: letter conversion :: s))
        (.numbered 1 (by decide) conversion :: parts)
  | stray {s parts} (hstray : ¬StartsDirective s) (h : Reads s parts) :
      Reads ('%' :: s) (.literal "%" :: parts)

end Templates

section Arguments

def signedValue (negative : Bool) (digits : List Char) : Int :=
  if negative then -(digitsValue digits : Int) else digitsValue digits

/-- A text starts with a decimal integer: behind blanks, with a sign or none, and as far as there are
digits. -/
inductive StartsWithInteger : List Char → Int → Prop where
  | intro {blanks sign digits rest : List Char} (hblanks : ∀ c ∈ blanks, isBlank c = true)
      (hsign : sign = [] ∨ sign = ['+'] ∨ sign = ['-']) (hdigits : isNumeral digits = true)
      (hrest : ∀ c ∈ rest.head?, c.isDigit = false) :
      StartsWithInteger (blanks ++ (sign ++ (digits ++ rest))) (signedValue (sign = ['-']) digits)

def FitsWord (i : Int) : Prop :=
  -2 ^ 63 ≤ i ∧ i < 2 ^ 63

instance (i : Int) : Decidable (FitsWord i) :=
  inferInstanceAs (Decidable (_ ∧ _))

/-- How an argument is inserted: as it is, or as the integer it starts with, which is zero where
there is none that fits a signed word. -/
inductive Inserted : Conversion → String → String → Prop where
  | verbatim (argument : String) : Inserted .text argument argument
  | integer {argument : String} {i : Int} (h : StartsWithInteger argument.toList i)
      (hword : FitsWord i) : Inserted .integer argument (toString i)
  | zero {argument : String} (h : ∀ i, StartsWithInteger argument.toList i → ¬FitsWord i) :
      Inserted .integer argument "0"

/-- The text that a conversion makes of an argument. -/
def insertion (conversion : Conversion) (argument : String) : String :=
  .ofList (conversion.write argument)

def Part.isInTurn : Part → Bool
  | inTurn _ => true
  | _ => false

/-- The text of a part behind some others: of the directives that take arguments in turn, the one
behind `k` such directives takes argument number `k + 1`. A missing argument is empty. -/
def Part.text (arguments : List String) (before : List Part) : Part → String
  | literal text => text
  | inTurn conversion => insertion conversion (arguments[before.countP isInTurn]?.getD "")
  | numbered number _ conversion => insertion conversion (arguments[number - 1]?.getD "")

/-- The texts of some parts, one after another. -/
def rendered (arguments : List String) (parts : List Part) : String :=
  .join (parts.mapIdx fun i part => part.text arguments (parts.take i))

end Arguments

section Reading

lemma pieces_eq_drop (skip : Nat) (s : List Char) :
    Message.piecesFrom skip s = Message.piecesFrom 0 (s.drop skip) := by
  induction s generalizing skip with
  | nil => simp [Message.piecesFrom]
  | cons c s ih =>
    cases skip with
    | succ skip => exact ih skip
    | zero => rfl

lemma pieces_of_directive {s : List Char} {piece : Piece} {used : Nat}
    (h : directive? s = some (piece, used)) :
    Message.piecesFrom 0 ('%' :: s) = piece :: Message.piecesFrom 0 (s.drop used) := by
  rw [Message.piecesFrom, if_pos rfl, h]
  simp only [pieces_eq_drop used]

lemma directive?_percent (s : List Char) : directive? ('%' :: s) = some (.char '%', 1) := by
  simp [directive?]

lemma directive?_inTurn (conversion : Conversion) (s : List Char) :
    directive? (letter conversion :: s) = some (.argument none conversion, 1) := by
  cases conversion <;> simp [directive?, letter, conversion?]

lemma conversion?_letter (conversion : Conversion) :
    conversion? (letter conversion) = some conversion := by
  cases conversion <;> rfl

lemma directive?_numbered {digits : List Char} (h : isNumeral digits = true)
    (conversion : Conversion) (s : List Char) :
    directive? (digits ++ '$' :: letter conversion :: s) =
      some (.argument (some ((readCount? digits).getD 0)) conversion, digits.length + 2) := by
  obtain ⟨hne, hdigits⟩ := isNumeral_iff.1 h
  have hpercent : (digits ++ '$' :: letter conversion :: s).head? ≠ some '%' := by
    rw [List.head?_append_of_ne_nil _ hne]
    exact head?_ne_of_isNumeral h rfl
  have htake : (digits ++ '$' :: letter conversion :: s).takeWhile Char.isDigit = digits := by
    simp [List.takeWhile_append_of_pos hdigits]
  have hempty : digits.isEmpty = false := by simpa using hne
  rw [directive?, if_neg hpercent]
  simp [htake, hempty, conversion?_letter]

lemma conversion?_eq_some {c : Char} {conversion : Conversion} (h : conversion? c = some conversion) :
    c = letter conversion := by
  unfold conversion? at h
  split at h
  · next hc =>
    obtain rfl := Option.some.inj h
    exact hc
  · split at h
    · next hc =>
      obtain rfl := Option.some.inj h
      exact hc
    · cases h

/-- Where no directive starts, none is read. -/
lemma directive?_eq_none {s : List Char} (h : ¬StartsDirective s) : directive? s = none := by
  have hpercent : s.head? ≠ some '%' := by
    intro hhead
    obtain ⟨s, rfl⟩ := List.head?_eq_some_iff.1 hhead
    exact h (.percent s)
  have hinTurn : s.head?.bind conversion? = none := by
    rw [Option.eq_none_iff_forall_ne_some]
    intro conversion hconversion
    obtain ⟨c, hhead, hc⟩ := Option.bind_eq_some_iff.1 hconversion
    obtain ⟨s, rfl⟩ := List.head?_eq_some_iff.1 hhead
    exact h (conversion?_eq_some hc ▸ .inTurn conversion s)
  rw [directive?, if_neg hpercent]
  simp only [hinTurn, Option.map_none]
  split
  · next spec hempty hrest =>
    rw [Option.map_eq_none_iff, Option.eq_none_iff_forall_ne_some]
    intro conversion hconversion
    obtain ⟨c, hhead, hc⟩ := Option.bind_eq_some_iff.1 hconversion
    obtain ⟨spec, rfl⟩ := List.head?_eq_some_iff.1 hhead
    obtain rfl := conversion?_eq_some hc
    have hdigits : isNumeral (s.takeWhile Char.isDigit) = true :=
      isNumeral_iff.2 ⟨by simpa using hempty, fun d hd => List.mem_takeWhile_imp hd⟩
    have hs : s = s.takeWhile Char.isDigit ++ '$' :: letter conversion :: spec := by
      rw [← hrest]
      exact (List.prefix_iff_eq_append.1 (List.takeWhile_prefix Char.isDigit)).symm
    exact h (hs ▸ .numbered hdigits conversion spec)
  · rfl

lemma pieces_of_plain {c : Char} (hc : c ≠ '%') (s : List Char) :
    Message.piecesFrom 0 (c :: s) = .char c :: Message.piecesFrom 0 s := by
  rw [Message.piecesFrom, if_neg hc]

lemma pieces_of_stray {s : List Char} (h : ¬StartsDirective s) :
    Message.piecesFrom 0 ('%' :: s) = .char '%' :: Message.piecesFrom 0 s := by
  rw [Message.piecesFrom, if_pos rfl, directive?_eq_none h]

lemma pieces_of_inTurn (conversion : Conversion) (s : List Char) :
    Message.piecesFrom 0 ('%' :: letter conversion :: s) =
      .argument none conversion :: Message.piecesFrom 0 s :=
  pieces_of_directive (directive?_inTurn conversion s)

lemma pieces_of_numbered {digits : List Char} (h : isNumeral digits = true)
    (conversion : Conversion) (s : List Char) :
    Message.piecesFrom 0 ('%' :: (digits ++ '$' :: letter conversion :: s)) =
      .argument (some ((readCount? digits).getD 0)) conversion :: Message.piecesFrom 0 s := by
  rw [pieces_of_directive (directive?_numbered h conversion s)]
  simp [← List.drop_drop]

lemma count_of_fitting {digits : List Char} (h : isNumeral digits = true)
    (hfit : 0 < digitsValue digits ∧ digitsValue digits < 2 ^ 64) :
    (readCount? digits).getD 0 = digitsValue digits := by
  have hword : digitsValue digits < 0x10000000000000000 := hfit.2
  rw [readCount?_of_isNumeral h, if_pos hword, Option.getD_some]

/-- A numeral that counts no argument is taken for zero. -/
lemma count_of_unfit {digits : List Char} (h : isNumeral digits = true)
    (hunfit : ¬(0 < digitsValue digits ∧ digitsValue digits < 2 ^ 64)) :
    (readCount? digits).getD 0 = 0 := by
  rw [readCount?_of_isNumeral h]
  split
  · rw [Option.getD_some]
    omega
  · rfl

/-- Doubled percent signs are read as single ones, and all other characters as themselves. -/
lemma pieces_of_doubled (text s : List Char) :
    Message.piecesFrom 0 (doubled text ++ s) = text.map .char ++ Message.piecesFrom 0 s := by
  induction text with
  | nil => rfl
  | cons c text ih =>
    have hcons : doubled (c :: text) = (if c = '%' then ['%', '%'] else [c]) ++ doubled text :=
      List.flatMap_cons
    by_cases hc : c = '%'
    · subst hc
      simpa [hcons, ih] using pieces_of_directive (directive?_percent (doubled text ++ s))
    · simpa [hcons, hc, ih] using pieces_of_plain hc (doubled text ++ s)

/-- What is written for parts is read as these parts. -/
lemma reads_written (parts : List Part) : Reads (parts.flatMap Part.written) parts := by
  induction parts with
  | nil => exact .nil
  | cons part parts ih =>
    rw [List.flatMap_cons]
    cases part with
    | literal text => exact .literal text ih
    | inTurn conversion => exact .inTurn conversion ih
    | numbered number h conversion =>
      have hread := Reads.numbered (isNumeral_toString number) (digitsValue_toString number) h
        conversion ih
      simpa [Part.written] using hread

/-- Every template can be read as parts. -/
lemma exists_reads (s : List Char) : ∃ parts, Reads s parts := by
  induction hlength : s.length using Nat.strongRecOn generalizing s with
  | ind length ih =>
    have ih : ∀ t : List Char, t.length < s.length → ∃ parts, Reads t parts :=
      fun t ht => ih t.length (hlength ▸ ht) t rfl
    cases s with
    | nil => exact ⟨[], .nil⟩
    | cons c s =>
      by_cases hc : c = '%'
      · subst hc
        by_cases hstart : StartsDirective s
        · cases hstart with
          | percent s =>
            obtain ⟨parts, h⟩ := ih s (by simp only [List.length_cons]; omega)
            exact ⟨_, .literal "%" h⟩
          | inTurn conversion s =>
            obtain ⟨parts, h⟩ := ih s (by simp only [List.length_cons]; omega)
            exact ⟨_, .inTurn conversion h⟩
          | @numbered digits hdigits conversion s =>
            obtain ⟨parts, h⟩ := ih s (by simp; omega)
            by_cases hnumber : 0 < digitsValue digits ∧ digitsValue digits < 2 ^ 64
            · exact ⟨_, .numbered hdigits rfl hnumber conversion h⟩
            · exact ⟨_, .miscounted hdigits hnumber conversion h⟩
        · obtain ⟨parts, h⟩ := ih s (by simp)
          exact ⟨_, .stray hstart h⟩
      · obtain ⟨parts, h⟩ := ih s (by simp)
        have hplain : doubled (String.singleton c).toList = [c] := by simp [doubled, hc]
        have hread := Reads.literal (String.singleton c) h
        rw [hplain] at hread
        exact ⟨_, hread⟩

end Reading

section Filling

variable (arguments : List String)

lemma writePieces_chars (next : Nat) (text : List Char) (pieces : List Piece) :
    writePieces arguments next (text.map .char ++ pieces) =
      text ++ writePieces arguments next pieces := by
  induction text with
  | nil => rfl
  | cons c text ih => simp only [List.map_cons, List.cons_append, writePieces, ih]

/-- The texts of some parts behind others. -/
def renderedFrom (before parts : List Part) : String :=
  .join (parts.mapIdx fun i part => part.text arguments (before ++ parts.take i))

lemma countP_concat (before : List Part) (part : Part) :
    (before ++ [part]).countP Part.isInTurn =
      before.countP Part.isInTurn + if part.isInTurn then 1 else 0 := by
  simp [List.countP_append, List.countP_singleton]

lemma renderedFrom_cons (before : List Part) (part : Part) (parts : List Part) :
    renderedFrom arguments before (part :: parts) =
      part.text arguments before ++ renderedFrom arguments (before ++ [part]) parts := by
  simp [renderedFrom, List.mapIdx_cons, String.join_cons]

/-- However a template is read as parts, what is written for its pieces is the text of the parts, as
the arguments in turn are counted over the parts before. -/
lemma writePieces_of_reads {s : List Char} {parts : List Part} (h : Reads s parts)
    (before : List Part) :
    writePieces arguments (before.countP Part.isInTurn) (Message.piecesFrom 0 s) =
      (renderedFrom arguments before parts).toList := by
  induction h generalizing before with
  | nil => simp [Message.piecesFrom, writePieces, renderedFrom, String.join]
  | literal text _ ih =>
    have hrest := ih (before ++ [.literal text])
    rw [countP_concat] at hrest
    rw [pieces_of_doubled, writePieces_chars, renderedFrom_cons, String.toList_append]
    exact congrArg (text.toList ++ ·) hrest
  | inTurn conversion _ ih =>
    have hrest := ih (before ++ [.inTurn conversion])
    rw [countP_concat] at hrest
    rw [pieces_of_inTurn, writePieces, renderedFrom_cons, String.toList_append, ← hrest, Part.text,
      insertion, String.toList_ofList]
    rfl
  | numbered hdigits hvalue hnumber conversion _ ih =>
    subst hvalue
    have hrest := ih (before ++ [.numbered _ hnumber conversion])
    rw [countP_concat] at hrest
    rw [pieces_of_numbered hdigits, count_of_fitting hdigits hnumber, writePieces, renderedFrom_cons,
      String.toList_append, ← hrest, Part.text, insertion, String.toList_ofList]
    rfl
  | miscounted hdigits hnumber conversion _ ih =>
    have hrest := ih (before ++ [.numbered 1 (by decide) conversion])
    rw [countP_concat] at hrest
    rw [pieces_of_numbered hdigits, count_of_unfit hdigits hnumber, writePieces, renderedFrom_cons,
      String.toList_append, ← hrest, Part.text, insertion, String.toList_ofList]
    rfl
  | stray hstray _ ih =>
    have hrest := ih (before ++ [.literal "%"])
    rw [countP_concat] at hrest
    have hpercent : "%".toList = ['%'] := rfl
    rw [pieces_of_stray hstray, writePieces, renderedFrom_cons, String.toList_append, Part.text,
      hpercent]
    exact congrArg ('%' :: ·) hrest

lemma interpolate_of_reads {template : String} {parts : List Part}
    (h : Reads template.toList parts) :
    interpolate template arguments = rendered arguments parts := by
  have hwrite := writePieces_of_reads arguments h []
  rw [List.countP_nil] at hwrite
  rw [interpolate, pieces, hwrite, String.ofList_toList]
  rfl

/-- A text with its percent signs doubled is the template of itself. -/
lemma interpolate_doubled (text : String) :
    interpolate (.ofList (doubled text.toList)) arguments = text := by
  have hread := Reads.literal text .nil
  rw [List.append_nil, ← String.toList_ofList (l := doubled text.toList)] at hread
  rw [interpolate_of_reads arguments hread]
  simp [rendered, Part.text, String.join]

end Filling

section Integers

/-- The digits that are read at the start of a text, behind blanks and a sign. -/
def openingDigits (s : List Char) : List Char :=
  (cutSign (trimStartChars isBlank s)).2.takeWhile Char.isDigit

def openingValue (s : List Char) : Int :=
  signedValue (cutSign (trimStartChars isBlank s)).1 (openingDigits s)

lemma exists_sign (s : List Char) :
    ∃ sign : List Char, (sign = [] ∨ sign = ['+'] ∨ sign = ['-']) ∧ s = sign ++ (cutSign s).2 ∧
      (cutSign s).1 = decide (sign = ['-']) := by
  unfold cutSign
  split
  · exact ⟨['-'], by simp⟩
  · exact ⟨['+'], by simp⟩
  · exact ⟨[], by simp⟩

lemma cutSign_of_digit {s : List Char} (h : ∀ c ∈ s.head?, c.isDigit = true) :
    cutSign s = (false, s) := by
  unfold cutSign
  split
  · exact absurd (h '-' rfl) (by decide)
  · exact absurd (h '+' rfl) (by decide)
  · rfl

lemma not_isBlank_of_isDigit {c : Char} (h : c.isDigit = true) : isBlank c = false := by
  simp only [Char.isDigit, ge_iff_le, Bool.and_eq_true, decide_eq_true_eq, UInt32.le_iff_toNat_le] at h
  have hlow : 48 ≤ c.toNat := h.1
  have hhigh : c.toNat ≤ 57 := h.2
  simp [isBlank]
  omega

/-- Behind blanks, a sign and its digits are cut as they stand. -/
lemma opening_append {blanks sign digits rest : List Char}
    (hblanks : ∀ c ∈ blanks, isBlank c = true) (hsign : sign = [] ∨ sign = ['+'] ∨ sign = ['-'])
    (hdigits : isNumeral digits = true) (hrest : ∀ c ∈ rest.head?, c.isDigit = false) :
    openingDigits (blanks ++ (sign ++ (digits ++ rest))) = digits ∧
      openingValue (blanks ++ (sign ++ (digits ++ rest))) = signedValue (sign = ['-']) digits := by
  obtain ⟨hne, hall⟩ := isNumeral_iff.1 hdigits
  have hhead : ∀ c ∈ (digits ++ rest).head?, c.isDigit = true := by
    rw [List.head?_append_of_ne_nil _ hne]
    exact fun c hc => hall c (List.mem_of_head? hc)
  have hsolid : ∀ c ∈ (sign ++ (digits ++ rest)).head?, isBlank c = false := by
    rcases hsign with rfl | rfl | rfl
    · exact fun c hc => not_isBlank_of_isDigit (hhead c hc)
    · rintro c ⟨⟩
      rfl
    · rintro c ⟨⟩
      rfl
  have htrim : trimStartChars isBlank (blanks ++ (sign ++ (digits ++ rest))) =
      sign ++ (digits ++ rest) := by
    rw [trimStartChars, List.dropWhile_append_of_pos hblanks]
    exact trimStartChars_eq_self hsolid
  have hcut : cutSign (sign ++ (digits ++ rest)) = (decide (sign = ['-']), digits ++ rest) := by
    rcases hsign with rfl | rfl | rfl
    · exact cutSign_of_digit hhead
    · rfl
    · rfl
  have htake : (digits ++ rest).takeWhile Char.isDigit = digits := by
    rw [List.takeWhile_append_of_pos hall]
    cases rest with
    | nil => simp
    | cons c rest => simp [hrest c rfl]
  rw [openingValue, openingDigits, htrim, hcut, htake]
  exact ⟨rfl, rfl⟩

/-- The integer at the start of a text is that of the sign and the digits that are read. -/
lemma startsWithInteger_iff {s : List Char} {i : Int} :
    StartsWithInteger s i ↔ isNumeral (openingDigits s) = true ∧ i = openingValue s := by
  constructor
  · rintro ⟨hblanks, hsign, hdigits, hrest⟩
    obtain ⟨hopening, hvalue⟩ := opening_append hblanks hsign hdigits hrest
    rw [hopening, hvalue]
    exact ⟨hdigits, rfl⟩
  · rintro ⟨hdigits, rfl⟩
    obtain ⟨sign, hsign, hs, hnegative⟩ := exists_sign (trimStartChars isBlank s)
    have hrest : ∀ c ∈ ((cutSign (trimStartChars isBlank s)).2.dropWhile Char.isDigit).head?,
        c.isDigit = false := by
      intro c hc
      have hkept := List.head?_dropWhile_not Char.isDigit (cutSign (trimStartChars isBlank s)).2
      rwa [Option.mem_def.1 hc] at hkept
    have hwhole : s.takeWhile isBlank ++ (sign ++ (openingDigits s ++
        (cutSign (trimStartChars isBlank s)).2.dropWhile Char.isDigit)) = s := by
      rw [openingDigits, List.takeWhile_append_dropWhile, ← hs, trimStartChars,
        List.takeWhile_append_dropWhile]
    have hblanks : ∀ c ∈ s.takeWhile isBlank, isBlank c = true :=
      fun c hc => List.mem_takeWhile_imp hc
    have hstart := StartsWithInteger.intro hblanks hsign hdigits hrest
    rw [hwhole] at hstart
    rwa [openingValue, hnegative]

/-- The numeral that is put together for reading has the sign of the text and the digits. -/
lemma cutSign_take_append (s : List Char) {digits : List Char}
    (hdigits : ∀ c ∈ digits, c.isDigit = true) :
    let signLength := if s.head? = some '-' ∨ s.head? = some '+' then 1 else 0
    s.drop signLength = (cutSign s).2 ∧
      cutSign (s.take signLength ++ digits) = ((cutSign s).1, digits) := by
  have hbare : cutSign digits = (false, digits) :=
    cutSign_of_digit fun c hc => hdigits c (List.mem_of_head? hc)
  cases s with
  | nil => exact ⟨rfl, hbare⟩
  | cons c s =>
    by_cases hminus : c = '-'
    · subst hminus
      exact ⟨rfl, rfl⟩
    · by_cases hplus : c = '+'
      · subst hplus
        exact ⟨rfl, rfl⟩
      · have hcut : cutSign (c :: s) = (false, c :: s) := by
          unfold cutSign
          split <;> simp_all
        simp [hminus, hplus, hcut, hbare]

lemma leadingInteger_eq (s : List Char) :
    leadingInteger s =
      if isNumeral (openingDigits s) = true ∧ FitsWord (openingValue s) then .ofInt (openingValue s)
      else 0 := by
  have hall : ∀ c ∈ openingDigits s, c.isDigit = true := fun c hc => List.mem_takeWhile_imp hc
  obtain ⟨hdrop, hcut⟩ := cutSign_take_append (trimStartChars isBlank s) hall
  have hmin : Int64.minValue.toInt = -2 ^ 63 := by decide
  have hmax : Int64.maxValue.toInt = 2 ^ 63 - 1 := by decide
  have hrange : ∀ i : Int, (Int64.minValue.toInt ≤ i ∧ i ≤ Int64.maxValue.toInt) ↔ FitsWord i := by
    intro i
    rw [hmin, hmax, FitsWord]
    omega
  unfold leadingInteger
  simp only [hdrop]
  rw [← openingDigits, readSigned?, hcut, readDigits?]
  by_cases hdigits : isNumeral (openingDigits s) = true
  · simp only [hdigits, if_true, Option.bind_some, hrange, true_and]
    rw [← signedValue, ← openingValue]
    by_cases hfit : FitsWord (openingValue s)
    · simp only [hfit, if_true, Option.getD_some]
    · simp only [hfit, if_false, Option.getD_none]
  · simp [hdigits]

/-- What a conversion makes of an argument is what is inserted. -/
lemma inserted_iff {conversion : Conversion} {argument text : String} :
    Inserted conversion argument text ↔ text = insertion conversion argument := by
  have hverbatim : insertion .text argument = argument := String.ofList_toList
  have hinteger : insertion .integer argument =
      toString (leadingInteger argument.toList).toInt := String.ofList_toList
  constructor
  · intro h
    cases h with
    | verbatim => exact hverbatim.symm
    | integer h hword =>
      obtain ⟨hdigits, rfl⟩ := startsWithInteger_iff.1 h
      rw [hinteger, leadingInteger_eq, if_pos ⟨hdigits, hword⟩,
        Int64.toInt_ofInt_of_le hword.1 hword.2]
    | zero h =>
      have hnone : ¬(isNumeral (openingDigits argument.toList) = true ∧
          FitsWord (openingValue argument.toList)) := by
        rintro ⟨hdigits, hword⟩
        exact h _ (startsWithInteger_iff.2 ⟨hdigits, rfl⟩) hword
      rw [hinteger, leadingInteger_eq, if_neg hnone]
      rfl
  · rintro rfl
    cases conversion with
    | text =>
      rw [hverbatim]
      exact .verbatim argument
    | integer =>
      rw [hinteger, leadingInteger_eq]
      split
      · next h =>
        rw [Int64.toInt_ofInt_of_le h.2.1 h.2.2]
        exact .integer (startsWithInteger_iff.2 ⟨h.1, rfl⟩) h.2
      · next h =>
        refine .zero fun i hi hword => h ?_
        obtain ⟨hdigits, rfl⟩ := startsWithInteger_iff.1 hi
        exact ⟨hdigits, hword⟩

end Integers

/-- Filling in a template writes its literal texts as they are and each argument in the place of its
directives: in the order of the directives that take the arguments in turn, or by number. As text an
argument is inserted verbatim, as integer the signed word it starts with, and zero without one. The
parts that say so are those the template was written from; every template can be read as parts,
whatever the arguments are, and then a percent sign that starts no directive is itself. -/
theorem templates_are_filled_in_one_pass :
    (∀ parts arguments, interpolate (written parts) arguments = rendered arguments parts) ∧
    (∀ conversion argument text,
      Inserted conversion argument text ↔ text = insertion conversion argument) ∧
    ∀ template : String, (∃ parts, Reads template.toList parts) ∧
      ∀ parts, Reads template.toList parts →
        ∀ arguments, interpolate template arguments = rendered arguments parts := by
  refine ⟨fun parts arguments => ?_, fun _ _ _ => inserted_iff, fun template =>
    ⟨exists_reads template.toList, fun parts h arguments => interpolate_of_reads arguments h⟩⟩
  apply interpolate_of_reads
  rw [written, String.toList_ofList]
  exact reads_written parts

/-- The percent signs of an argument stay, and so does the one at the end, which starts nothing. -/
theorem share_of_label_is_filled_in :
    Reads "%2$d%% of %s, not %".toList
        [.numbered 2 (by decide) .integer, .literal "% of ", .inTurn .text, .literal ", not ",
          .literal "%"] ∧
      interpolate "%2$d%% of %s, not %" ["100%s", " -42kg"] = "-42% of 100%s, not %" := by
  have hstray : ¬StartsDirective [] := by
    intro h
    generalize hs : ([] : List Char) = s at h
    cases h <;> simp at hs
  have hend : Reads ", not %".toList [.literal ", not ", .literal "%"] :=
    .literal ", not " (.stray hstray .nil)
  have hmiddle : Reads "%% of %s, not %".toList
      [.literal "% of ", .inTurn .text, .literal ", not ", .literal "%"] :=
    .literal "% of " (.inTurn .text hend)
  have htwo : isNumeral ['2'] = true := rfl
  have hreads : Reads "%2$d%% of %s, not %".toList
      [.numbered 2 (by decide) .integer, .literal "% of ", .inTurn .text, .literal ", not ",
        .literal "%"] :=
    .numbered htwo rfl (by decide) .integer hmiddle
  obtain ⟨-, -, hfilled⟩ := templates_are_filled_in_one_pass
  have hmessage := (hfilled "%2$d%% of %s, not %").2 _ hreads ["100%s", " -42kg"]
  exact ⟨hreads, hmessage.trans (by rfl)⟩

end RuleChain.Proofs
