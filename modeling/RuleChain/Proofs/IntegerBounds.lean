import RuleChain.Builtin.Bound
import RuleChain.Proofs.ChainRun
import RuleChain.Proofs.NearestInteger
import RuleChain.Proofs.NumeralOptions
import RuleChain.Proofs.WholeNumerals

/-!
# Bounds on integers

The rules for bounds compare floating-point values, so that an integer and a bound are both rounded
before they are compared. Main statement: for all integers of 64 bits, as numbers or as texts, the
rules compare what the integers are rounded to. Unequal integers that are rounded to the same one
count as equal, which takes two integers of more than 53 bits.
-/

namespace RuleChain.Proofs
open RuleChain.Text

/-- An integer of 64 bits, signed or unsigned, as a number or as a text between blanks. -/
inductive IntegerValue : Tree → Int → Prop where
  | number {v} (h : IsWord v) : IntegerValue (.number (.integer v h)) v
  | text {s v} (hv : IsWord v) (hs : SignedNumeral (trimChars isBlank s.toList) v) :
      IntegerValue (.text s) v

/-- An integer of 64 bits as an option. -/
structure IntegerOption (s : String) (n : Int) : Prop where
  numeral : SignedNumeral s.toList n
  isWord : IsWord n

/-- The rules for bounds are found under their names. -/
structure BoundRules (registry : Registry Handler) : Prop where
  greater : registry.resolve "isGreaterThan" = .ok Builtin.isGreaterThan
  less : registry.resolve "isLessThan" = .ok Builtin.isLessThan
  between : registry.resolve "isBetween" = .ok Builtin.isBetween

/-- A run of a chain leaves a value as it was and no rejection. -/
def Passes {H : Type} [Judging H] (engine : Engine H) (label : Option String) (rules : Chain)
    (value : Tree) : Prop :=
  (engine.value value rules label).1 = .ok value ∧
    (engine.value value rules label).2.rejections = []

lemma passes_iff_of_judged {H : Type} [Judging H] {engine : Engine H} {rules : Chain} {call : Call}
    {value : Tree} {ok : Bool} {template : String}
    (hcalls : namedCalls engine.settings rules = [call])
    (hjudged : judged engine.settings engine.registry call value =
      .ok (.check ok template value)) (label : Option String) :
    Passes engine label rules value ↔ ok = true := by
  have hends := chainEnds_of_check hjudged
  rw [← hcalls] at hends
  rw [Passes, value_of_chainEnds hends]
  cases ok <;> simp [answerOf]

section Values

lemma toFloat?_of_integerValue {value : Tree} {v : Int} (h : IntegerValue value v) :
    ∃ x, value.toFloat? = some x ∧ x.signedUnits = nearest v * Binary64.one := by
  cases h with
  | number h => exact ⟨_, rfl, signedUnits_ofInt (Number.natAbs_lt_of_isWord h)⟩
  | text hv hs =>
    obtain ⟨d, x, hread, hvalue, hunits, -⟩ :=
      toBinary64?_of_signedNumeral hs (Number.natAbs_lt_of_isWord hv)
    refine ⟨x, ?_, hunits⟩
    rw [Tree.toFloat?, Binary64.read?, hread, Option.bind_some, hvalue]

variable {x y : Binary64} {i j : Int} (hx : x.signedUnits = nearest i * Binary64.one)
variable (hy : y.signedUnits = nearest j * Binary64.one)

include hx hy

lemma lt_iff_of_signedUnits : x < y ↔ nearest i < nearest j := by
  have hone : (0 : Int) < Binary64.one := Int.natCast_pos.2 one_pos
  change x.signedUnits < y.signedUnits ↔ _
  rw [hx, hy]
  exact Int.mul_lt_mul_right hone

lemma le_iff_of_signedUnits : x ≤ y ↔ nearest i ≤ nearest j := by
  have hone : (0 : Int) < Binary64.one := Int.natCast_pos.2 one_pos
  change x.signedUnits ≤ y.signedUnits ↔ _
  rw [hx, hy]
  exact Int.mul_le_mul_right hone

end Values

/-- A rule that compares the value with one number. -/
def oneBound (holds : Binary64 → Binary64 → Bool) (template : String) : Handler :=
  .plain fun inv value => do
    let limit ← inv.number 0
    return .check (Builtin.numberIs (holds limit) value) template value

lemma isGreaterThan_eq :
    Builtin.isGreaterThan = oneBound (fun limit x => limit < x) "%s must be greater than %s." :=
  rfl

lemma isLessThan_eq :
    Builtin.isLessThan = oneBound (fun limit x => x < limit) "%s must be less than %s." :=
  rfl

section Judgements

variable {settings : Settings} {registry : Registry Handler} {call : Call} {value : Tree} {v : Int}
variable (hvalue : IntegerValue value v)

lemma number_of_integerOption {inv : Invocation} {i : Nat} {s : String} {n : Int}
    (h : inv.options[i]? = some s) (hn : IntegerOption s n) :
    ∃ x, inv.number i = .ok x ∧ x.signedUnits = nearest n * Binary64.one :=
  number_of_numeral h hn.numeral (Number.natAbs_lt_of_isWord hn.isWord)

include hvalue

lemma judged_oneBound {holds : Binary64 → Binary64 → Bool} {template : String}
    (hresolve : registry.resolve call.name = .ok (oneBound holds template)) {s : String} {n : Int}
    (hoptions : Invocation.options ⟨call, settings⟩ = [s]) (hn : IntegerOption s n) :
    ∃ limit x : Binary64, limit.signedUnits = nearest n * Binary64.one ∧
      x.signedUnits = nearest v * Binary64.one ∧
      judged settings registry call value = .ok (.check (holds limit x) template value) := by
  obtain ⟨x, hx, hunits⟩ := toFloat?_of_integerValue hvalue
  have hoption : (Invocation.options ⟨call, settings⟩)[0]? = some s := by rw [hoptions]; rfl
  obtain ⟨limit, hlimit, hlimitUnits⟩ := number_of_integerOption hoption hn
  refine ⟨limit, x, hlimitUnits, hunits, ?_⟩
  simp only [judged, hresolve, Judging.judge, oneBound, Handler.judge, hlimit, bind, Except.bind,
    pure, Except.pure, Builtin.numberIs, hx, Option.any_some]

/-- Bounds in order are still in order when they are rounded. -/
lemma judged_isBetween (hresolve : registry.resolve call.name = .ok Builtin.isBetween)
    {s t : String} {a b : Int}
    (hoptions : Invocation.options ⟨call, settings⟩ = [s, t]) (ha : IntegerOption s a)
    (hb : IntegerOption t b) (hab : a ≤ b) :
    ∃ template, judged settings registry call value =
      .ok (.check (nearest a ≤ nearest v && nearest v ≤ nearest b) template value) := by
  obtain ⟨x, hx, hunits⟩ := toFloat?_of_integerValue hvalue
  have hfirst : (Invocation.options ⟨call, settings⟩)[0]? = some s := by rw [hoptions]; rfl
  have hsecond : (Invocation.options ⟨call, settings⟩)[1]? = some t := by rw [hoptions]; rfl
  obtain ⟨low, hlow, hlowUnits⟩ := number_of_integerOption hfirst ha
  obtain ⟨high, hhigh, hhighUnits⟩ := number_of_integerOption hsecond hb
  have horder : ¬high < low := by
    rw [lt_iff_of_signedUnits hhighUnits hlowUnits, Int.not_lt]
    exact nearest_mono hab
  have hlowText := option_of_getElem? hfirst (IsNumeral.ne_empty ⟨a, ha.numeral⟩)
  have hhighText := option_of_getElem? hsecond (IsNumeral.ne_empty ⟨b, hb.numeral⟩)
  refine ⟨s!"%s must be between {s} and {t}.", ?_⟩
  simp only [judged, hresolve, Judging.judge, Builtin.isBetween, Handler.judge, hlow,
    hhigh, hlowText, hhighText, horder, if_false, bind, Except.bind, pure, Except.pure,
    Builtin.numberIs, hx, Option.any_some, le_iff_of_signedUnits hlowUnits hunits,
    le_iff_of_signedUnits hunits hhighUnits]

end Judgements

section Runs

variable {engine : Engine Handler} (htokens : UsualTokens engine.settings)
variable (hrules : BoundRules engine.registry) {value : Tree} {v : Int}
variable (hvalue : IntegerValue value v) (label : Option String)

include htokens hvalue

lemma passes_oneBound_iff {name : String} (hname : LetterName name)
    {holds : Binary64 → Binary64 → Bool} {template : String}
    (hresolve : engine.registry.resolve name = .ok (oneBound holds template)) {s : String} {n : Int}
    (hn : IntegerOption s n) {P : Prop}
    (hholds : ∀ limit x : Binary64, limit.signedUnits = nearest n * Binary64.one →
      x.signedUnits = nearest v * Binary64.one → (holds limit x = true ↔ P)) :
    Passes engine label (.text (bracketed name [s])) value ↔ P := by
  have hoptions : ∀ option ∈ [s], IsNumeral option := by simpa using ⟨n, hn.numeral⟩
  obtain ⟨call, hcalls, hcall, hread⟩ :=
    exists_call_of_numerals htokens hname hoptions (List.cons_ne_nil _ _) (.inl rfl)
  rw [← hcall] at hresolve
  obtain ⟨limit, x, hlimit, hx, hjudged⟩ := judged_oneBound hvalue hresolve hread hn
  rw [passes_iff_of_judged hcalls hjudged label, hholds limit x hlimit hx]

include hrules

lemma passes_isGreaterThan_iff {s : String} {n : Int} (hn : IntegerOption s n) :
    Passes engine label (.text (bracketed "isGreaterThan" [s])) value ↔ nearest n < nearest v := by
  have hresolve := hrules.greater
  rw [isGreaterThan_eq] at hresolve
  refine passes_oneBound_iff htokens hvalue label ⟨by decide, by decide⟩ hresolve hn ?_
  intro limit x hlimit hx
  rw [decide_eq_true_eq, lt_iff_of_signedUnits hlimit hx]

lemma passes_isLessThan_iff {s : String} {n : Int} (hn : IntegerOption s n) :
    Passes engine label (.text (bracketed "isLessThan" [s])) value ↔ nearest v < nearest n := by
  have hresolve := hrules.less
  rw [isLessThan_eq] at hresolve
  refine passes_oneBound_iff htokens hvalue label ⟨by decide, by decide⟩ hresolve hn ?_
  intro limit x hlimit hx
  rw [decide_eq_true_eq, lt_iff_of_signedUnits hx hlimit]

lemma passes_isBetween_iff {s t : String} {a b : Int} (ha : IntegerOption s a)
    (hb : IntegerOption t b) (hab : a ≤ b) :
    Passes engine label (.text (bracketed "isBetween" [s, t])) value ↔
      nearest a ≤ nearest v ∧ nearest v ≤ nearest b := by
  have hname : LetterName "isBetween" := ⟨by decide, by decide⟩
  have hoptions : ∀ option ∈ [s, t], IsNumeral option := by
    simpa using ⟨⟨a, ha.numeral⟩, b, hb.numeral⟩
  obtain ⟨call, hcalls, hcall, hread⟩ :=
    exists_call_of_numerals htokens hname hoptions (List.cons_ne_nil _ _) (.inl rfl)
  have hresolve := hrules.between
  rw [← hcall] at hresolve
  obtain ⟨template, hjudged⟩ := judged_isBetween hvalue hresolve hread ha hb hab
  simpa using passes_iff_of_judged hcalls hjudged label

end Runs

/-- What the rules for bounds compare for integers of 64 bits, as numbers or as texts: a value
passes a strict bound if it is beyond the bound and not rounded to the same number, and an inclusive
one if it is not beyond it or is rounded to the same number. Where one of two integers has less than
54 bits, only equal integers are rounded to the same number, and the rules order them exactly. -/
theorem bounds_compare_rounded_integers {engine : Engine Handler}
    (htokens : UsualTokens engine.settings) (hrules : BoundRules engine.registry)
    (label : Option String) :
    (∀ value v, IntegerValue value v →
      (∀ s n, IntegerOption s n →
        (Passes engine label (.text (bracketed "isGreaterThan" [s])) value ↔
          n < v ∧ nearest n ≠ nearest v) ∧
        (Passes engine label (.text (bracketed "isLessThan" [s])) value ↔
          v < n ∧ nearest v ≠ nearest n)) ∧
      ∀ s t a b, IntegerOption s a → IntegerOption t b → a ≤ b →
        (Passes engine label (.text (bracketed "isBetween" [s, t])) value ↔
          (a ≤ v ∨ nearest a = nearest v) ∧ (v ≤ b ∨ nearest v = nearest b))) ∧
    ∀ i j : Int, i.natAbs < 2 ^ 53 ∨ j.natAbs < 2 ^ 53 → (nearest i = nearest j ↔ i = j) := by
  refine ⟨fun value v hvalue => ⟨fun s n hn => ⟨?_, ?_⟩, fun s t a b ha hb hab => ?_⟩,
    fun i j => nearest_eq_iff⟩
  · rw [passes_isGreaterThan_iff htokens hrules hvalue label hn, nearest_lt_iff]
  · rw [passes_isLessThan_iff htokens hrules hvalue label hn, nearest_lt_iff]
  · rw [passes_isBetween_iff htokens hrules hvalue label ha hb hab, nearest_le_iff, nearest_le_iff]

section Sample

def boundEngine : Engine Handler where
  settings := {}
  registry :=
    { names := [("isgreaterthan", "compare::greater_than"), ("islessthan", "compare::less_than"),
        ("isbetween", "compare::between")]
      handlers := [("compare::greater_than", Builtin.isGreaterThan),
        ("compare::less_than", Builtin.isLessThan), ("compare::between", Builtin.isBetween)] }
  delimiter := "."
  rejections := []
  currentKey := ""
  current := .null

lemma boundEngine_tokens : UsualTokens boundEngine.settings := ⟨rfl, rfl, rfl, rfl⟩

lemma boundEngine_rules : BoundRules boundEngine.registry := ⟨rfl, rfl, rfl⟩

/-- One less than the greatest word, between blanks. -/
def highNumber : Tree :=
  .text " 18446744073709551614 "

lemma highNumber_value : IntegerValue highNumber 18446744073709551614 :=
  .text (by decide) (signedNumeral_iff.2 (by decide))

/-- A number of 54 bits, next to one of 53 bits. -/
def oddNumber : Tree :=
  .number (.integer 9007199254740993 (by decide))

/-- The text is not less than the greatest word, and counts as no more than a smaller number. -/
theorem high_number_is_compared_rounded :
    UsualTokens boundEngine.settings ∧ BoundRules boundEngine.registry ∧
      IntegerValue highNumber 18446744073709551614 ∧
      Passes boundEngine none (.text "isGreaterThan[-1]") highNumber ∧
      ¬Passes boundEngine none (.text "isLessThan[18446744073709551615]") highNumber ∧
      Passes boundEngine none (.text "isBetween[-1,18446744073709551613]") highNumber := by
  obtain ⟨hvalues, -⟩ := bounds_compare_rounded_integers boundEngine_tokens boundEngine_rules none
  obtain ⟨hstrict, hbetween⟩ := hvalues highNumber _ highNumber_value
  have hnegative : IntegerOption "-1" (-1) := ⟨signedNumeral_iff.2 (by decide), by decide⟩
  have hgreatest : IntegerOption "18446744073709551615" 18446744073709551615 :=
    ⟨signedNumeral_iff.2 (by decide), by decide⟩
  have hsmaller : IntegerOption "18446744073709551613" 18446744073709551613 :=
    ⟨signedNumeral_iff.2 (by decide), by decide⟩
  refine ⟨boundEngine_tokens, boundEngine_rules, highNumber_value, ?_, ?_, ?_⟩
  · exact (hstrict _ _ hnegative).1.2 (by decide)
  · exact fun h => absurd ((hstrict _ _ hgreatest).2.1 h) (by decide)
  · exact (hbetween _ _ _ _ hnegative hsmaller (by decide)).2 (by decide)

/-- The number is greater than the bound and does not pass it, and is not between bounds that it
passes. -/
theorem odd_number_is_judged_as_even_one :
    ¬Passes boundEngine none (.text "isGreaterThan[9007199254740992]") oddNumber ∧
      Passes boundEngine none (.text "isBetween[0,9007199254740992]") oddNumber ∧
      (9007199254740992 : Int) < 9007199254740993 := by
  have hvalue : IntegerValue oddNumber 9007199254740993 := .number (by decide)
  have hzero : IntegerOption "0" 0 := ⟨signedNumeral_iff.2 (by decide), by decide⟩
  have heven : IntegerOption "9007199254740992" 9007199254740992 :=
    ⟨signedNumeral_iff.2 (by decide), by decide⟩
  refine ⟨fun h => ?_, ?_, by decide⟩
  · have hgreater := passes_isGreaterThan_iff boundEngine_tokens boundEngine_rules hvalue none heven
    exact absurd (hgreater.1 h) (by decide)
  · exact (passes_isBetween_iff boundEngine_tokens boundEngine_rules hvalue none hzero heven
      (by decide)).2 (by decide)

end Sample

end RuleChain.Proofs
