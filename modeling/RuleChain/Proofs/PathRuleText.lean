import Mathlib.Data.List.Basic
import Mathlib.Order.Basic
import RuleChain.Proofs.ChainText
import RuleChain.Rule.Target

/-!
# Writing path rules

A path rule is a line of three parts: a rule, a path in parentheses, and what stands behind. Main
statement: exactly such lines are read, and options behind the path mean the same in brackets and
behind a delimiter. Both spellings give the token of a call from which name and options are read
back, whatever brackets, parentheses and delimiters the options hold.
-/

namespace RuleChain.Proofs
open RuleChain.Text

section Trimming

/-- Nothing is trimmed between two characters that are no blanks. -/
lemma trim_eq_self {s : String} (hhead : ∀ c ∈ s.toList.head?, isBlank c = false)
    (hlast : ∀ c ∈ s.toList.getLast?, isBlank c = false) : trim s = s := by
  rw [trim, trimWhere, trimChars, trimStartChars_eq_self hhead, trimEndChars_eq_self hlast,
    String.ofList_toList]

lemma head_of_trimmed {s : String} (h : trim s = s) :
    ∀ c ∈ s.toList.head?, isBlank c = false := by
  have hchars : trimChars isBlank s.toList = s.toList := by
    rw [← String.toList_inj, trim, trimWhere, String.toList_ofList] at h
    exact h
  have hshort : (trimChars isBlank s.toList).length ≤ (s.toList.dropWhile isBlank).length := by
    simp only [trimChars, trimEndChars, trimStartChars, List.length_reverse]
    exact (List.dropWhile_sublist isBlank).length_le.trans_eq List.length_reverse
  rw [hchars] at hshort
  have hstart := (List.dropWhile_sublist isBlank (l := s.toList)).eq_of_length_le hshort
  intro c hc
  have hkept := List.head?_dropWhile_not isBlank s.toList
  rw [hstart, Option.mem_def.1 hc] at hkept
  exact hkept

/-- The last character of a text and another is the last one of the other, if that has one. -/
lemma getLast_append {s t : List Char} (ht : ∀ c ∈ t.getLast?, isBlank c = false)
    (hs : t = [] → ∀ c ∈ s.getLast?, isBlank c = false) :
    ∀ c ∈ (s ++ t).getLast?, isBlank c = false := by
  cases t with
  | nil => simpa using hs rfl
  | cons d t => simpa [List.getLast?_append] using ht

end Trimming

section Reading

/-- A line is made of a rule, a path in parentheses, and a rest. -/
structure MadeOf (line rule path rest : String) : Prop where
  line_eq : line = rule ++ ("(" ++ (path ++ (")" ++ rest)))
  rule_ne : rule ≠ ""
  rule_closed : '(' ∉ rule.toList
  path_ne : path ≠ ""
  path_closed : ')' ∉ path.toList
  rest_line : '\n' ∉ rest.toList

/-- A separator of one character is cut at where it is first found. -/
lemma cutChars?_char_iff {c : Char} {s before behind : List Char} :
    cutChars? [c] s = some (before, behind) ↔ s = before ++ c :: behind ∧ c ∉ before := by
  constructor
  · intro h
    induction s generalizing before with
    | nil => simp [cutChars?] at h
    | cons d s ih =>
      by_cases hd : c = d
      · subst hd
        have hstrip := stripChars?_append [c] s
        rw [List.singleton_append] at hstrip
        simp only [cutChars?, hstrip, Option.some.injEq, Prod.mk.injEq] at h
        obtain ⟨rfl, rfl⟩ := h
        simp
      · have hstrip := stripChars?_eq_none (List.cons_ne_nil c []) (by simpa using Ne.symm hd) s
        rw [cutChars?, hstrip, Option.map_eq_some_iff] at h
        obtain ⟨⟨front, rest⟩, hcut, heq⟩ := h
        obtain ⟨rfl, rfl⟩ := Prod.mk.inj heq
        obtain ⟨rfl, hfront⟩ := ih hcut
        exact ⟨rfl, by simp [hd, hfront]⟩
  · rintro ⟨rfl, hc⟩
    have hbefore : ∀ d ∈ before, d ∉ [c] := by
      intro d hd hmem
      exact hc (List.mem_singleton.1 hmem ▸ hd)
    exact cutChars?_append (List.cons_ne_nil c []) hbefore behind

lemma split?_eq_some_iff {s rule path rest : List Char} :
    Target.split? s = some (rule, path, rest) ↔
      MadeOf (.ofList s) (.ofList rule) (.ofList path) (.ofList rest) := by
  constructor
  · intro h
    unfold Target.split? at h
    split at h
    · cases h
    · next first behind hfirst =>
      split at h
      · cases h
      · next second tail hsecond =>
        split at h
        · cases h
        · next hparts =>
          obtain ⟨rfl, hopen⟩ := cutChars?_char_iff.1 hfirst
          obtain ⟨rfl, hclose⟩ := cutChars?_char_iff.1 hsecond
          simp only [Option.some.injEq, Prod.mk.injEq] at h
          obtain ⟨rfl, rfl, rfl⟩ := h
          simp only [Bool.or_eq_true, List.isEmpty_iff, List.contains_eq_mem, decide_eq_true_eq,
            not_or] at hparts
          obtain ⟨⟨hrule, hpath⟩, hrest⟩ := hparts
          refine ⟨?_, by simpa using hrule, by simpa using hopen, by simpa using hpath,
            by simpa using hclose, by simpa using hrest⟩
          rw [← String.toList_inj]
          simp
  · intro h
    have hline := congrArg String.toList h.line_eq
    have hrule := h.rule_ne
    have hopen := h.rule_closed
    have hpath := h.path_ne
    have hclose := h.path_closed
    have hrest := h.rest_line
    simp only [String.toList_append, String.toList_ofList] at hline hopen hclose hrest
    have hfirst : cutChars? ['('] s = some (rule, path ++ ')' :: rest) :=
      cutChars?_char_iff.2 ⟨by simpa using hline, hopen⟩
    have hsecond : cutChars? [')'] (path ++ ')' :: rest) = some (path, rest) :=
      cutChars?_char_iff.2 ⟨rfl, hclose⟩
    rw [Target.split?, hfirst]
    simp only [hsecond]
    rw [if_neg]
    simp_all

/-- The token of a rule, with what stands behind the path. -/
def tokenOf (settings : Settings) (rule rest : String) : String :=
  .ofList (Target.ruleToken settings.optionLeft.toList settings.optionRight.toList
    settings.optionDelimiter.toList (trim rule).toList (trim rest).toList)

/-- What is read, and what is read from it. -/
lemma parse_eq_ok_iff {settings : Settings} {expression : String} {target : Target} :
    Target.parse settings expression = .ok target ↔
      ∃ rule path rest, MadeOf (trim expression) rule path rest ∧
        target = ⟨trim path, tokenOf settings rule rest⟩ := by
  have hsplit : ∀ rule path rest,
      Target.split? (trimChars isBlank expression.toList) = some (rule, path, rest) ↔
        MadeOf (trim expression) (.ofList rule) (.ofList path) (.ofList rest) :=
    fun _ _ _ => split?_eq_some_iff
  unfold Target.parse Target.parts?
  constructor
  · intro h
    cases hparts : Target.split? (trimChars isBlank expression.toList) with
    | none => simp [hparts] at h
    | some parts =>
      obtain ⟨rule, path, rest⟩ := parts
      refine ⟨_, _, _, (hsplit rule path rest).1 hparts, ?_⟩
      simp only [hparts, Option.map_some, Except.ok.injEq] at h
      rw [← h, tokenOf]
      simp [trim, trimWhere]
  · rintro ⟨rule, path, rest, hmade, rfl⟩
    have hparts := (hsplit rule.toList path.toList rest.toList).2 (by simpa using hmade)
    simp [hparts, tokenOf, trim, trimWhere]

end Reading

section Writing

lemma stripChars?_of_head_ne {start s : List Char} (hstart : start ≠ [])
    (h : s.head? ≠ start.head?) : stripChars? start s = none := by
  obtain ⟨c, start, rfl⟩ := List.exists_cons_of_ne_nil hstart
  cases s with
  | nil => rfl
  | cons d s =>
    have hne : c ≠ d := by simpa [eq_comm] using h
    simp [stripChars?, hne]

/-- Tokens that options are written with: none of them has a blank, and a left bracket is told from
an option delimiter by its first character. -/
structure OptionTokens (settings : Settings) : Prop where
  left_solid : ∀ c ∈ settings.optionLeft.toList, isBlank c = false
  right_solid : ∀ c ∈ settings.optionRight.toList, isBlank c = false
  delimiter_solid : ∀ c ∈ settings.optionDelimiter.toList, isBlank c = false
  starts_ne : settings.optionLeft.toList.head? ≠ settings.optionDelimiter.toList.head?

/-- A name and a path that can be told from a line that starts with them. -/
structure Head (name path : String) : Prop where
  name_ne : name ≠ ""
  name_trimmed : trim name = name
  name_closed : '(' ∉ name.toList
  path_ne : path ≠ ""
  path_trimmed : trim path = path
  path_closed : ')' ∉ path.toList

/-- A name, a path and options that can be told from the line they are written in. -/
structure Line (settings : Settings) (name path options : String) : Prop where
  name_ne : name ≠ ""
  name_trimmed : trim name = name
  name_closed : '(' ∉ name.toList
  name_apart : Apart settings.optionLeft name
  path_ne : path ≠ ""
  path_trimmed : trim path = path
  path_closed : ')' ∉ path.toList
  options_line : '\n' ∉ options.toList
  options_end : ∀ c ∈ options.toList.getLast?, isBlank c = false

variable {settings : Settings} {name path options rest : String}

lemma Line.head (hline : Line settings name path options) : Head name path :=
  ⟨hline.name_ne, hline.name_trimmed, hline.name_closed, hline.path_ne, hline.path_trimmed,
    hline.path_closed⟩

/-- Nothing is trimmed of a name with a path in parentheses and a rest that ends in no blank. -/
lemma trim_line (hhead : Head name path) (hend : ∀ c ∈ rest.toList.getLast?, isBlank c = false) :
    trim (name ++ ("(" ++ (path ++ (")" ++ rest)))) =
      name ++ ("(" ++ (path ++ (")" ++ rest))) := by
  have hname : name.toList ≠ [] := by simpa using hhead.name_ne
  have hclose : ∀ c ∈ (")".toList).getLast?, isBlank c = false := by
    rintro c ⟨⟩
    rfl
  apply trim_eq_self
  · rw [String.toList_append, List.head?_append_of_ne_nil _ hname]
    exact head_of_trimmed hhead.name_trimmed
  · simp only [String.toList_append, ← List.append_assoc]
    exact getLast_append hend fun _ => getLast_append hclose (by simp)

/-- A name with a path in parentheses is read part by part, up to a rest that ends in no blank. -/
lemma parse_head (hhead : Head name path) (hrest : '\n' ∉ rest.toList)
    (hend : ∀ c ∈ rest.toList.getLast?, isBlank c = false) :
    Target.parse settings (name ++ ("(" ++ (path ++ (")" ++ rest)))) =
      .ok ⟨path, tokenOf settings name rest⟩ := by
  have hmade : MadeOf (trim (name ++ ("(" ++ (path ++ (")" ++ rest))))) name path rest :=
    ⟨trim_line hhead hend, hhead.name_ne, hhead.name_closed, hhead.path_ne, hhead.path_closed,
      hrest⟩
  exact parse_eq_ok_iff.2 ⟨name, path, rest, hmade, by rw [hhead.path_trimmed]⟩

lemma parse_line (hline : Line settings name path options) (hrest : '\n' ∉ rest.toList)
    (hend : ∀ c ∈ rest.toList.getLast?, isBlank c = false) :
    Target.parse settings (name ++ ("(" ++ (path ++ (")" ++ rest)))) =
      .ok ⟨path, tokenOf settings name rest⟩ :=
  parse_head hline.head hrest hend

lemma tokenOf_empty (hname : trim name = name) : tokenOf settings name "" = name := by
  have hempty : trim "" = "" := rfl
  simp [tokenOf, Target.ruleToken, hname, hempty]

lemma newline_not_mem {s : String} (hsolid : ∀ c ∈ s.toList, isBlank c = false) :
    '\n' ∉ s.toList := by
  intro hmem
  exact absurd (hsolid '\n' hmem) (by decide)

lemma getLast_delimiter (htokens : OptionTokens settings)
    (hoptions : ∀ c ∈ options.toList.getLast?, isBlank c = false) :
    ∀ c ∈ (settings.optionDelimiter ++ options).toList.getLast?, isBlank c = false := by
  rw [String.toList_append]
  exact getLast_append hoptions fun _ c hc =>
    htokens.delimiter_solid c (List.mem_of_getLast? hc)

variable (hcheck : settings.check = .ok ()) (htokens : OptionTokens settings)

include hcheck htokens

lemma getLast_brackets (options : String) :
    ∀ c ∈ (settings.optionLeft ++ (options ++ settings.optionRight)).toList.getLast?,
      isBlank c = false := by
  simp only [String.toList_append, ← List.append_assoc]
  exact getLast_append (fun c hc => htokens.right_solid c (List.mem_of_getLast? hc))
    fun hnil => absurd hnil (right_ne_nil hcheck)

/-- Bracketed options stay as they are written. -/
lemma tokenOf_brackets (hname : trim name = name) (options : String) :
    tokenOf settings name (settings.optionLeft ++ (options ++ settings.optionRight)) =
      name ++ (settings.optionLeft ++ (options ++ settings.optionRight)) := by
  have hleft := left_ne_nil hcheck
  have hdelimiter := delimiter_ne_nil hcheck
  have hrest : trim (settings.optionLeft ++ (options ++ settings.optionRight)) =
      settings.optionLeft ++ (options ++ settings.optionRight) := by
    apply trim_eq_self
    · rw [String.toList_append, List.head?_append_of_ne_nil _ hleft]
      exact fun c hc => htokens.left_solid c (List.mem_of_head? hc)
    · exact getLast_brackets hcheck htokens options
  have hstrip : stripChars? settings.optionDelimiter.toList
      (settings.optionLeft ++ (options ++ settings.optionRight)).toList = none := by
    apply stripChars?_of_head_ne hdelimiter
    rw [String.toList_append, List.head?_append_of_ne_nil _ hleft]
    exact htokens.starts_ne
  have hne : (settings.optionLeft ++ (options ++ settings.optionRight)).toList.isEmpty = false := by
    simp [hleft]
  rw [tokenOf, hname, hrest, Target.ruleToken, hstrip, hne]
  simp

/-- Options behind a delimiter are put in brackets. -/
lemma tokenOf_delimiter (hname : trim name = name)
    (hoptions : ∀ c ∈ options.toList.getLast?, isBlank c = false) :
    tokenOf settings name (settings.optionDelimiter ++ options) =
      name ++ (settings.optionLeft ++ (options ++ settings.optionRight)) := by
  have hdelimiter := delimiter_ne_nil hcheck
  have hrest : trim (settings.optionDelimiter ++ options) =
      settings.optionDelimiter ++ options := by
    apply trim_eq_self
    · rw [String.toList_append, List.head?_append_of_ne_nil _ hdelimiter]
      exact fun c hc => htokens.delimiter_solid c (List.mem_of_head? hc)
    · exact getLast_delimiter htokens hoptions
  have hstrip : stripChars? settings.optionDelimiter.toList
      (settings.optionDelimiter ++ options).toList = some options.toList := by
    rw [String.toList_append]
    exact stripChars?_append _ _
  have hne : (settings.optionDelimiter ++ options).toList.isEmpty = false := by
    simp [hdelimiter]
  rw [tokenOf, hname, hrest, Target.ruleToken, hstrip, hne]
  simp

end Writing

/-- An expression is read as a path rule if, without the blanks around it, it is a rule, a path in
parentheses and the rest of a line, and is given back in the error if not. With options behind the
path, in brackets or behind the delimiter, it gives the path and the same token in both spellings,
and the token gives name and options. Without them the token is the name, and gives no options. -/
theorem path_rules_are_read_in_either_spelling :
    (∀ settings expression,
      ((∃ target, Target.parse settings expression = .ok target) ↔
        ∃ rule path rest, MadeOf (trim expression) rule path rest) ∧
      ((¬∃ rule path rest, MadeOf (trim expression) rule path rest) →
        Target.parse settings expression = .error (.invalidExpression expression))) ∧
    ∀ settings : Settings, settings.check = .ok () → OptionTokens settings →
      ∀ name path options, Line settings name path options →
        let token := name ++ (settings.optionLeft ++ (options ++ settings.optionRight))
        let head := name ++ ("(" ++ (path ++ ")"))
        Target.parse settings (head ++ (settings.optionLeft ++ (options ++ settings.optionRight))) =
          .ok ⟨path, token⟩ ∧
        Target.parse settings (head ++ (settings.optionDelimiter ++ options)) =
          .ok ⟨path, token⟩ ∧
        Call.ofToken settings token = ⟨name, options, token⟩ ∧
        Target.parse settings head = .ok ⟨path, name⟩ ∧
        Call.ofToken settings name = ⟨name, "", name⟩ := by
  constructor
  · intro settings expression
    constructor
    · constructor
      · rintro ⟨target, h⟩
        obtain ⟨rule, path, rest, hmade, -⟩ := parse_eq_ok_iff.1 h
        exact ⟨rule, path, rest, hmade⟩
      · rintro ⟨rule, path, rest, hmade⟩
        exact ⟨_, parse_eq_ok_iff.2 ⟨rule, path, rest, hmade, rfl⟩⟩
    · intro hnone
      cases hparts : Target.parts? settings expression.toList with
      | none => rw [Target.parse, hparts]
      | some parts =>
        have hok : Target.parse settings expression = .ok ⟨.ofList parts.1, .ofList parts.2⟩ := by
          rw [Target.parse, hparts]
        obtain ⟨rule, path, rest, hmade, -⟩ := parse_eq_ok_iff.1 hok
        exact absurd ⟨rule, path, rest, hmade⟩ hnone
  · intro settings hcheck htokens name path options hline token head
    have hhead : ∀ rest, head ++ rest = name ++ ("(" ++ (path ++ (")" ++ rest))) := by
      intro rest
      simp only [head, String.append_assoc]
    have hname := hline.name_trimmed
    refine ⟨?_, ?_, ofToken_brackets hcheck hname hline.name_apart options, ?_,
      ofToken_name hcheck hname hline.name_apart⟩
    · rw [hhead, parse_line hline, tokenOf_brackets hcheck htokens hname]
      · simp [newline_not_mem htokens.left_solid, newline_not_mem htokens.right_solid,
          hline.options_line]
      · exact getLast_brackets hcheck htokens options
    · rw [hhead, parse_line hline, tokenOf_delimiter hcheck htokens hname hline.options_end]
      · simp [newline_not_mem htokens.delimiter_solid, hline.options_line]
      · exact getLast_delimiter htokens hline.options_end
    · rw [← String.append_empty (s := head), hhead, parse_line hline, tokenOf_empty hname]
      · simp
      · simp

/-- The options hold the brackets and the delimiter around them, and parentheses as well; and a name
without a path is no path rule. -/
theorem default_at_note_is_read_in_either_spelling :
    OptionTokens pairedSettings ∧ Line pairedSettings "default" "order.note" "[[x]](y),,z" ∧
      Target.parse pairedSettings "default(order.note)[[[[x]](y),,z]]" =
        .ok ⟨"order.note", "default[[[[x]](y),,z]]"⟩ ∧
      Target.parse pairedSettings "default(order.note),,[[x]](y),,z" =
        .ok ⟨"order.note", "default[[[[x]](y),,z]]"⟩ ∧
      Call.ofToken pairedSettings "default[[[[x]](y),,z]]" =
        ⟨"default", "[[x]](y),,z", "default[[[[x]](y),,z]]"⟩ ∧
      Target.parse pairedSettings "isString" = .error (.invalidExpression "isString") := by
  have htokens : OptionTokens pairedSettings :=
    ⟨by simp [pairedSettings, isBlank], by simp [pairedSettings, isBlank],
      by simp [pairedSettings, isBlank], by decide⟩
  have hline : Line pairedSettings "default" "order.note" "[[x]](y),,z" :=
    ⟨by decide, by decide, by decide, by decide, by decide, by decide, by decide, by decide,
      by simp [isBlank]⟩
  obtain ⟨hread, hwritten⟩ := path_rules_are_read_in_either_spelling
  obtain ⟨hbrackets, hdelimiter, hcall, -⟩ := hwritten pairedSettings rfl htokens _ _ _ hline
  refine ⟨htokens, hline, hbrackets, hdelimiter, hcall, (hread _ _).2 ?_⟩
  rintro ⟨rule, path, rest, hmade⟩
  have hopen : '(' ∈ (trim "isString").toList := by simp [hmade.line_eq]
  exact absurd hopen (by decide)

end RuleChain.Proofs
