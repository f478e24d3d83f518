import RuleChain.Builtin.Kind
import RuleChain.Proofs.DocumentCheck
import RuleChain.Proofs.NestedExpressions
import RuleChain.Proofs.PathRuleText
import RuleChain.Proofs.SplitJoin

/-!
# Lists at a path

A rule at a path is applied to the items of the list there, one by one, or to the list as a whole.
Main statement: the text of the path decides it. The list is judged as a whole exactly if the text
ends in the wildcard, be it as the last segment of the path or only as the end of a longer one,
which matches nothing but a key of that name.
-/

namespace RuleChain.Proofs
open RuleChain.Text

section Segments

lemma suffix_join_concat (sep last : String) (front : List String) :
    last.toList <:+ (join sep (front ++ [last])).toList := by
  induction front with
  | nil => simp [join, joinChars]
  | cons piece front ih =>
    have hne : front ++ [last] ≠ [] := List.concat_ne_nil last front
    rw [List.cons_append, join_cons hne, String.toList_append]
    exact ih.trans (List.suffix_append _ _)

/-- The last segment of a path is the end of its text. -/
lemma suffix_of_last_segment {sep path last : String} (hsep : sep ≠ "")
    (h : (split sep path).getLast? = some last) : last.toList <:+ path.toList := by
  obtain ⟨front, hfront⟩ := List.getLast?_eq_some_iff.1 h
  have hsuffix := suffix_join_concat sep last front
  rwa [← hfront, join_split hsep] at hsuffix

end Segments

section Expressions

/-- A text has one cut at the first place of a character. -/
lemma cut_unique {c : Char} {front front' behind behind' : List Char} (h : c ∉ front)
    (h' : c ∉ front') (heq : front ++ c :: behind = front' ++ c :: behind') : behind = behind' := by
  have hcut : cutChars? [c] (front ++ c :: behind) = some (front, behind) :=
    cutChars?_char_iff.2 ⟨rfl, h⟩
  rw [cutChars?_char_iff.2 ⟨heq, h'⟩] at hcut
  simp_all

variable {settings : Settings} (hcheck : settings.check = .ok ()) (htokens : OptionTokens settings)
variable {name path : String} (hhead : Head name path)

/-- Options in brackets. -/
def inBrackets (settings : Settings) (options : String) : String :=
  settings.optionLeft ++ (options ++ settings.optionRight)

/-- A rule at a path with options in brackets. -/
def pathRule (settings : Settings) (name path options : String) : String :=
  name ++ ("(" ++ (path ++ (")" ++ inBrackets settings options)))

include hcheck htokens hhead

lemma parse_pathRule {options : String} (hline : '\n' ∉ options.toList) :
    Target.parse settings (pathRule settings name path options) =
      .ok ⟨path, name ++ inBrackets settings options⟩ := by
  have hrest : '\n' ∉ (inBrackets settings options).toList := by
    simp [inBrackets, newline_not_mem htokens.left_solid, newline_not_mem htokens.right_solid,
      hline]
  rw [pathRule, parse_head hhead hrest (getLast_brackets hcheck htokens options), inBrackets,
    tokenOf_brackets hcheck htokens hhead.name_trimmed]

/-- A rule at a path that goes on in another line is no path rule. -/
lemma not_parse_pathRule {options : String} (hline : '\n' ∈ options.toList) (target : Target) :
    Target.parse settings (pathRule settings name path options) ≠ .ok target := by
  intro h
  obtain ⟨rule, inner, rest, hmade, -⟩ := parse_eq_ok_iff.1 h
  have htrim : trim (pathRule settings name path options) = pathRule settings name path options :=
    trim_line hhead (getLast_brackets hcheck htokens options)
  have hchars : name.toList ++ '(' :: (path.toList ++ ')' :: (inBrackets settings options).toList) =
      rule.toList ++ '(' :: (inner.toList ++ ')' :: rest.toList) := by
    simpa [pathRule] using congrArg String.toList (htrim.symm.trans hmade.line_eq)
  -- both parentheses stand where they are first found
  have hbehind := cut_unique hhead.name_closed hmade.rule_closed hchars
  have hrest := cut_unique hhead.path_closed hmade.path_closed hbehind
  refine hmade.rest_line ?_
  simp [← hrest, inBrackets, hline]

omit hcheck htokens hhead in
lemma allBlank_pathRule (name path options : String) :
    allBlank (pathRule settings name path options) = false := by
  rw [allBlank, List.all_eq_false]
  exact ⟨'(', by simp [pathRule], by decide⟩

end Expressions

section Checks

variable {H : Type} [Judging H] {checker : DocumentChecker H} (hreached : CheckerReached checker)
variable {value document : Tree} (hstands : StandsFor value document)

include hreached hstands

/-- A check by one path rule passes if each value at the path does. -/
lemma check_ok_iff_of_parse {rules : Chain} {expression : String} {target : Target}
    (htokens : rules.toTokens checker.engine.settings.ruleDelimiter = [expression])
    (hparse : Target.parse checker.engine.settings expression = .ok target) :
    (checker.check value rules).1 = .ok () ↔
      ∀ item ∈ checker.tokens.targets document target.path,
        ValueJudged checker.engine.settings checker.engine.registry target.rule item (.ok ()) := by
  have hraise := raises_of_checkerReached hreached
  obtain ⟨horder, -⟩ := checkTargets_judged checker.tokens document hraise [expression]
  have hfilter : ([expression].filter fun e => !allBlank e) = [expression] := by
    simp [allBlank_of_parse hparse]
  rw [hfilter] at horder
  simp only [check_of_standsFor hstands, htokens]
  constructor
  · intro hok
    rw [hok, inOrder_ok_iff] at horder
    obtain ⟨⟩ | ⟨hparse', hvalues, hall⟩ := horder expression (List.mem_singleton_self _)
    obtain rfl := Except.ok.inj (hparse.symm.trans hparse')
    obtain rfl := targets_iff.1 hvalues
    exact inOrder_ok_iff.1 hall
  · intro hall
    have hjudged := ExpressionJudged.judged hparse (targets_iff.2 rfl) (.through hall)
    have hok : InOrder (ExpressionJudged checker.engine.settings checker.engine.registry
        checker.tokens document) [expression] (.ok ()) := .through (by simpa using hjudged)
    exact horder.unique hok fun _ _ _ => expressionJudged_unique

omit hreached in
lemma check_of_malformed {rules : Chain} {expression : String}
    (htokens : rules.toTokens checker.engine.settings.ruleDelimiter = [expression])
    (hnamed : allBlank expression = false)
    (hmalformed : ∀ target, Target.parse checker.engine.settings expression ≠ .ok target) :
    (checker.check value rules).1 = .error (.setup (.invalidExpression expression)) := by
  simp only [check_of_standsFor hstands, htokens, DocumentChecker.checkTargets, hnamed]
  cases hparse : Target.parse checker.engine.settings expression with
  | ok target => exact absurd hparse (hmalformed target)
  | error e => simp [parse_error hparse]

end Checks

/-- How a path rule judges a list at its path: item by item if the text of the path does not end in
the wildcard, and as a whole if it does, with the rule and the options of the expression either way.
The last segment of a path is the end of its text, so a path that ends in the wildcard as a segment
is one of the latter, but so is every path whose last segment only ends in it. An expression whose
options go on in another line is no path rule. -/
theorem list_at_path_is_judged_by_end_of_text {H : Type} [Judging H] {checker : DocumentChecker H}
    (hreached : CheckerReached checker) (hcheck : checker.engine.settings.check = .ok ())
    (htokens : OptionTokens checker.engine.settings) {value document : Tree}
    (hstands : StandsFor value document) {name path : String} (hhead : Head name path)
    (options : String) {items : List Tree}
    (hitems : checker.tokens.resolve document path .null = .list items) {rules : Chain}
    (hrules : rules.toTokens checker.engine.settings.ruleDelimiter =
      [pathRule checker.engine.settings name path options]) :
    let settings := checker.engine.settings
    let Accepts := fun item => ValueJudged settings checker.engine.registry
      (name ++ inBrackets settings options) item (.ok ())
    ('\n' ∉ options.toList →
      (¬checker.tokens.wildcard.toList <:+ path.toList →
        ((checker.check value rules).1 = .ok () ↔ ∀ item ∈ items, Accepts item)) ∧
      (checker.tokens.wildcard.toList <:+ path.toList →
        ((checker.check value rules).1 = .ok () ↔ Accepts (.list items)))) ∧
    ((split checker.tokens.delimiter path).getLast? = some checker.tokens.wildcard →
      checker.tokens.wildcard.toList <:+ path.toList) ∧
    ('\n' ∈ options.toList →
      (checker.check value rules).1 =
        .error (.setup (.invalidExpression (pathRule settings name path options)))) := by
  intro settings Accepts
  refine ⟨fun hline => ?_, suffix_of_last_segment checker.tokens.delimiter_ne, fun hline => ?_⟩
  · have hparse := parse_pathRule hcheck htokens hhead hline
    rw [check_ok_iff_of_parse hreached hstands hrules hparse]
    constructor
    · intro hend
      rw [← targets_iff.1 (Targets.items hitems hend)]
    · intro hend
      rw [← targets_iff.1 (Targets.whole hitems hend)]
      exact List.forall_mem_singleton
  · exact check_of_malformed hstands hrules (allBlank_pathRule name path options)
      (not_parse_pathRule hcheck htokens hhead hline)

section Sample

def tagEngine : Engine Handler where
  settings := {}
  registry :=
    { names := [("isstring", "types::is_string")]
      handlers := [("types::is_string", Builtin.isText)] }
  delimiter := "."
  rejections := []
  currentKey := ""
  current := .null

def tagChecker : DocumentChecker Handler :=
  .ofEngine tagEngine

def newAndOld : List Tree :=
  [.text "new", .text "old"]

/-- Two lists, of which one has a key with an asterisk at the end. -/
def tagLists : Tree :=
  .object [("tags", .list newAndOld), ("tags*", .list newAndOld)]

lemma tagChecker_reached : CheckerReached tagChecker := .ofEngine tagEngine

lemma tagChecker_tokens : OptionTokens tagChecker.engine.settings :=
  ⟨by simp [tagChecker, DocumentChecker.ofEngine, Engine.raising, tagEngine, isBlank],
    by simp [tagChecker, DocumentChecker.ofEngine, Engine.raising, tagEngine, isBlank],
    by simp [tagChecker, DocumentChecker.ofEngine, Engine.raising, tagEngine, isBlank], by decide⟩

lemma tagChecker_calls : namedCalls tagChecker.engine.settings (.tokens ["isString[]"]) =
    [⟨"isString", "", "isString[]"⟩] := by rfl

lemma resolve_isString : tagChecker.engine.registry.resolve "isString" = .ok Builtin.isText := rfl

lemma text_judged_isString (s : String) :
    ValueJudged tagChecker.engine.settings tagChecker.engine.registry "isString[]" (.text s)
      (.ok ()) := by
  have hgives : Gives tagChecker.engine.settings tagChecker.engine.registry
      ⟨"isString", "", "isString[]"⟩ (.text s) ⟨.proceed, .text s⟩ := ⟨_, resolve_isString, by cbv⟩
  have hchain := ChainEnds.through (.cons hgives (.nil _))
  rw [← tagChecker_calls] at hchain
  exact .passes hchain

lemma newAndOld_judged : ∀ item ∈ newAndOld, ValueJudged tagChecker.engine.settings
    tagChecker.engine.registry "isString[]" item (.ok ()) := by
  simp [newAndOld, text_judged_isString]

theorem tags_are_judged_one_by_one :
    CheckerReached tagChecker ∧ StandsFor tagLists tagLists ∧ Head "isString" "tags" ∧
      tagChecker.tokens.resolve tagLists "tags" .null = .list newAndOld ∧
      (tagChecker.check tagLists (.text "isString(tags)[]")).1 = .ok () := by
  have hstands : StandsFor tagLists tagLists := .itself rfl
  have hhead : Head "isString" "tags" :=
    ⟨by decide, by decide, by decide, by decide, by decide, by decide⟩
  have hresolve : tagChecker.tokens.resolve tagLists "tags" .null = .list newAndOld := by rfl
  have hrules : (Chain.text "isString(tags)[]").toTokens tagChecker.engine.settings.ruleDelimiter =
      [pathRule tagChecker.engine.settings "isString" "tags" ""] := by rfl
  have hend : ¬tagChecker.tokens.wildcard.toList <:+ "tags".toList := by decide
  obtain ⟨hline, -, -⟩ := list_at_path_is_judged_by_end_of_text tagChecker_reached rfl
    tagChecker_tokens hstands hhead "" hresolve hrules
  refine ⟨tagChecker_reached, hstands, hhead, hresolve, ?_⟩
  exact ((hline (by decide)).1 hend).2 newAndOld_judged

lemma list_not_judged_isString (items : List Tree) :
    ¬ValueJudged tagChecker.engine.settings tagChecker.engine.registry "isString[]" (.list items)
      (.ok ()) := by
  have hgives : Gives tagChecker.engine.settings tagChecker.engine.registry
      ⟨"isString", "", "isString[]"⟩ (.list items) ⟨.fail "%s must be text.", .list items⟩ :=
    ⟨_, resolve_isString, by cbv⟩
  have hchain := ChainEnds.cut (.nil _) (.fail hgives) []
  rw [List.nil_append, ← tagChecker_calls] at hchain
  intro hok
  cases valueJudged_unique hok (.refused hchain)

/-- No segment of the path is the wildcard and both items pass, but the check of the list fails. -/
theorem list_under_starred_key_is_judged_whole :
    (∀ segment ∈ split "." "tags*", segment ≠ "*") ∧
      tagChecker.tokens.resolve tagLists "tags*" .null = .list newAndOld ∧
      (∀ item ∈ newAndOld, ValueJudged tagChecker.engine.settings tagChecker.engine.registry
        "isString[]" item (.ok ())) ∧
      (tagChecker.check tagLists (.text "isString(tags*)[]")).1 ≠ .ok () := by
  have hsegments : split "." "tags*" = ["tags*"] := by rfl
  have hrules : (Chain.text "isString(tags*)[]").toTokens tagChecker.engine.settings.ruleDelimiter =
      ["isString(tags*)[]"] := by rfl
  have hparse : Target.parse tagChecker.engine.settings "isString(tags*)[]" =
      .ok ⟨"tags*", "isString[]"⟩ := by rfl
  have htargets : tagChecker.tokens.targets tagLists "tags*" = [.list newAndOld] := by rfl
  refine ⟨?_, by rfl, newAndOld_judged, fun hok => ?_⟩
  · rw [hsegments]
    decide
  · have hall := (check_ok_iff_of_parse tagChecker_reached (.itself rfl) hrules hparse).1 hok
    rw [htargets] at hall
    exact list_not_judged_isString newAndOld (hall _ (List.mem_singleton_self _))

end Sample

end RuleChain.Proofs
