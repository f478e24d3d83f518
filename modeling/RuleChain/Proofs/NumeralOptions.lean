import RuleChain.Proofs.ChainText
import RuleChain.Proofs.DocumentCheck
import RuleChain.Proofs.PathRuleText
import RuleChain.Proofs.WholeNumerals

/-!
# Rules with numerals as options

With the usual tokens a rule is written with its options in square brackets, and numerals are
options that cannot be mistaken for anything else. The one call of such a rule is read back, each
option is read as the number it spells, and the verdict of a rule that only accepts or refuses
decides how the chain ends.
-/

namespace RuleChain.Proofs
open RuleChain.Text

/-- Settings that write chains with the usual tokens. -/
structure UsualTokens (settings : Settings) : Prop where
  rules : settings.ruleDelimiter = "|"
  left : settings.optionLeft = "["
  right : settings.optionRight = "]"
  options : settings.optionDelimiter = ","

/-- A name of letters. -/
structure LetterName (name : String) : Prop where
  ne : name ≠ ""
  letters : name.toList.all Char.isAlpha = true

/-- A text is a whole number. -/
def IsNumeral (s : String) : Prop :=
  ∃ i, SignedNumeral s.toList i

/-- A rule with options, as the usual tokens write it. -/
def bracketed (name : String) (options : List String) : String :=
  name ++ ("[" ++ (join "," options ++ "]"))

section Tokens

variable {settings : Settings} (h : UsualTokens settings)

include h

lemma UsualTokens.check : settings.check = .ok () := by
  simp [Settings.check_eq_ok_iff, h.rules, h.left, h.right, h.options]

lemma UsualTokens.rulesApart : RulesApart settings := by
  obtain ⟨hrules, hleft, hright, hoptions⟩ := h
  constructor
  · rw [hrules, hleft]
    decide
  · rw [hrules, hright]
    decide
  · rw [hrules, hoptions]
    decide

lemma UsualTokens.optionTokens : OptionTokens settings := by
  obtain ⟨-, hleft, hright, hoptions⟩ := h
  constructor
  · simp [hleft, isBlank]
  · simp [hright, isBlank]
  · simp [hoptions, isBlank]
  · rw [hleft, hoptions]
    decide

lemma token_of_usual {name : String} {options : List String} (hoptions : options ≠ []) :
    Request.token settings ⟨name, options⟩ = bracketed name options := by
  rw [Request.token, if_neg hoptions, h.left, h.right, h.options, bracketed]

end Tokens

section Writing

lemma LetterName.not_isBlank {name : String} (h : LetterName name) {c : Char}
    (hc : c ∈ name.toList) : isBlank c = false := by
  have hletter := List.all_eq_true.1 h.letters c hc
  unfold Char.isAlpha Char.isUpper Char.isLower at hletter
  simp only [ge_iff_le, Bool.or_eq_true, Bool.and_eq_true, decide_eq_true_eq,
    UInt32.le_iff_toNat_le] at hletter
  have hrange : (65 ≤ c.toNat ∧ c.toNat ≤ 90) ∨ (97 ≤ c.toNat ∧ c.toNat ≤ 122) := hletter
  simp [isBlank]
  omega

lemma LetterName.trimmed {name : String} (h : LetterName name) : trim name = name :=
  trim_eq_self (fun _ hc => h.not_isBlank (List.mem_of_head? hc))
    fun _ hc => h.not_isBlank (List.mem_of_getLast? hc)

lemma LetterName.not_mem {name : String} (h : LetterName name) {c : Char}
    (hc : c.isAlpha = false) : c ∉ name.toList := by
  intro hmem
  rw [List.all_eq_true.1 h.letters c hmem] at hc
  cases hc

lemma LetterName.apart {name sep : String} (h : LetterName name)
    (hsep : ∀ c ∈ sep.toList, c.isAlpha = false) : Apart sep name :=
  fun c hc hmem => h.not_mem (hsep c hmem) hc

lemma isNumeral_nat (n : Nat) : IsNumeral (toString n) :=
  ⟨n, signedNumeral_toString n⟩

lemma IsNumeral.ne_empty {s : String} (h : IsNumeral s) : s ≠ "" := by
  obtain ⟨i, hs⟩ := h
  simpa using hs.ne_nil

lemma IsNumeral.not_isBlank {s : String} (h : IsNumeral s) {c : Char} (hc : c ∈ s.toList) :
    isBlank c = false := by
  obtain ⟨i, hs⟩ := h
  exact hs.not_isBlank hc

lemma IsNumeral.trimmed {s : String} (h : IsNumeral s) : trim s = s :=
  trim_eq_self (fun _ hc => h.not_isBlank (List.mem_of_head? hc))
    fun _ hc => h.not_isBlank (List.mem_of_getLast? hc)

lemma IsNumeral.not_mem {s : String} (h : IsNumeral s) {c : Char}
    (hc : c.isDigit = false ∧ c ≠ '+' ∧ c ≠ '-') : c ∉ s.toList := by
  obtain ⟨i, hs⟩ := h
  obtain ⟨hdigit, hplus, hminus⟩ := hc
  intro hmem
  obtain hmem | hmem | hmem := hs.char hmem
  · rw [hdigit] at hmem
    cases hmem
  · exact hplus hmem
  · exact hminus hmem

lemma IsNumeral.apart {s sep : String} (h : IsNumeral s)
    (hsep : ∀ c ∈ sep.toList, c.isDigit = false ∧ c ≠ '+' ∧ c ≠ '-') : Apart sep s :=
  fun c hc hmem => h.not_mem (hsep c hmem) hc

variable {settings : Settings} (h : UsualTokens settings) {name : String} (hname : LetterName name)
variable {options : List String} (hoptions : ∀ option ∈ options, IsNumeral option)

include h hname hoptions

lemma writable_of_numerals : Request.Writable settings ⟨name, options⟩ where
  name_ne := hname.ne
  name_trimmed := hname.trimmed
  name_apart := by
    rw [h.left]
    exact hname.apart (by simp)
  options_trimmed option hoption := (hoptions option hoption).trimmed
  options_apart option hoption := by
    rw [h.options]
    exact (hoptions option hoption).apart (by simp)
  options_ne hempty := by
    obtain rfl : options = [""] := hempty
    exact (hoptions "" (List.mem_singleton_self "")).ne_empty rfl
  apart_name := by
    rw [h.rules]
    exact hname.apart (by simp)
  apart_options option hoption := by
    rw [h.rules]
    exact (hoptions option hoption).apart (by simp)

/-- The one call of a rule with numerals is read back, whether the rule is given as a chain of its
own or as a token. -/
lemma exists_call_of_numerals (hne : options ≠ []) {rules : Chain}
    (hrules : rules = .text (bracketed name options) ∨
      rules = .tokens [bracketed name options]) :
    ∃ call, namedCalls settings rules = [call] ∧ call.name = name ∧
      Invocation.options ⟨call, settings⟩ = options := by
  have hwritable := writable_of_numerals h hname hoptions
  have htoken : Request.token settings ⟨name, options⟩ = bracketed name options :=
    token_of_usual h hne
  have hpadded : [Request.token settings ⟨name, options⟩].filter (· ≠ "") =
      [Request.token settings ⟨name, options⟩] := by
    simp [token_ne hwritable]
  have hspells : Spells settings [Request.token settings ⟨name, options⟩] rules := by
    rw [← htoken] at hrules
    rcases hrules with rfl | rfl
    · have htext : Spells settings [Request.token settings ⟨name, options⟩]
          (.text (join settings.ruleDelimiter [Request.token settings ⟨name, options⟩])) :=
        .text hpadded
      rwa [join_singleton] at htext
    · exact .tokens hpadded
  refine ⟨Call.ofToken settings (Request.token settings ⟨name, options⟩), ?_, ?_, ?_⟩
  · have hrequests : ∀ request ∈ [Request.mk name options], request.Writable settings := by
      simpa using hwritable
    exact namedCalls_of_spells h.check h.rulesApart (List.cons_ne_nil _ _) hrequests hspells
  · exact name_ofToken h.check hwritable
  · exact congrArg Request.options (ofCall_ofToken h.check hwritable)

end Writing

section Options

variable {inv : Invocation} {i : Nat} {option : String}

lemma option_of_getElem? (h : inv.options[i]? = some option) (hne : option ≠ "") :
    inv.option i = .ok option := by
  rw [Invocation.option, h]
  exact if_neg hne

/-- A numeral of a word is read as the value that its number is rounded to. -/
lemma number_of_numeral (h : inv.options[i]? = some option) {n : Int}
    (hnumeral : SignedNumeral option.toList n) (hn : n.natAbs < twoPow 65) :
    ∃ x, inv.number i = .ok x ∧ x.signedUnits = nearest n * Binary64.one := by
  obtain ⟨d, x, hread, hvalue, hunits, -⟩ := toBinary64?_of_signedNumeral hnumeral hn
  have hne : option ≠ "" := IsNumeral.ne_empty ⟨n, hnumeral⟩
  have hx : Binary64.read? option.toList = some x := by
    rw [Binary64.read?, hread, Option.bind_some, hvalue]
  refine ⟨x, ?_, hunits⟩
  simp [Invocation.number, option_of_getElem? h hne, hx, bind, Except.bind, pure, Except.pure]

/-- A count of more than 64 bits is not read. -/
lemma count_of_toString {n : Nat} (h : inv.options[i]? = some (toString n)) :
    inv.count i = if n < 0x10000000000000000 then .ok n
      else .error (inv.invalid (.notACount (toString n))) := by
  have hne : toString n ≠ "" := IsNumeral.ne_empty (isNumeral_nat n)
  have hread := readCount?_of_isNumeral (isNumeral_toString n)
  rw [digitsValue_toString] at hread
  simp only [Invocation.count, option_of_getElem? h hne, hread, bind, Except.bind]
  by_cases hn : n < 0x10000000000000000
  · simp only [if_pos hn]
    rfl
  · simp only [if_neg hn]
    rfl

end Options

section Verdicts

variable {H : Type} [Judging H] {settings : Settings} {registry : Registry H} {call : Call}
variable {value : Tree}

lemma chainEnds_of_check {ok : Bool} {template : String}
    (h : judged settings registry call value = .ok (.check ok template value)) :
    ChainEnds settings registry [call] value
      (if ok then .through value else .refused call template value) := by
  cases ok with
  | true => exact .through (.cons (gives_iff.2 h) (.nil _))
  | false => exact .cut (.nil _) (.fail (gives_iff.2 h)) []

variable {rule : String} (hcalls : namedCalls settings (.tokens [rule]) = [call])

include hcalls

lemma valueJudged_ok_iff {ok : Bool} {template : String}
    (h : judged settings registry call value = .ok (.check ok template value)) :
    ValueJudged settings registry rule value (.ok ()) ↔ ok = true := by
  have hends := chainEnds_of_check h
  rw [← hcalls] at hends
  cases ok with
  | true => exact iff_of_true (.passes hends) rfl
  | false =>
    refine iff_of_false (fun hok => ?_) Bool.false_ne_true
    cases valueJudged_unique hok (.refused hends)

lemma not_valueJudged_ok {e : SetupError} (h : judged settings registry call value = .error e) :
    ¬ValueJudged settings registry rule value (.ok ()) := by
  have hends := ChainEnds.cut (.nil value) (endsAt_of_broken h) []
  rw [List.nil_append, ← hcalls] at hends
  intro hok
  cases valueJudged_unique hok (.unusable hends)

end Verdicts

end RuleChain.Proofs
