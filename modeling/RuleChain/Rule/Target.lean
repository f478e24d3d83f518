import RuleChain.Rule.Call

/-!
# Path rules

A path rule says which rule judges the values at a path: `rule(path)`, with options behind it in
brackets, `rule(path)[a,b]`, or behind an option delimiter, `rule(path),a,b`.
-/

namespace RuleChain

/-- A path, and the token of the rule for the values there. -/
structure Target where
  path : String
  rule : String
  deriving DecidableEq

namespace Target

/-- The parts of an expression: at least one character up to the first left parenthesis, at least
one from there to the next right parenthesis, and the rest of the line. -/
def split? (s : List Char) : Option (List Char × List Char × List Char) :=
  match Text.cutChars? ['('] s with
  | none => none
  | some (rule, s) =>
    match Text.cutChars? [')'] s with
    | none => none
    | some (path, rest) =>
      if rule.isEmpty || path.isEmpty || rest.contains '\n' then none else some (rule, path, rest)

/-- The token of a rule with what stands behind the path: nothing, options behind a delimiter, or
options in brackets. -/
def ruleToken (left right delimiter name rest : List Char) : List Char :=
  if rest.isEmpty then name
  else
    match Text.stripChars? delimiter rest with
    | some options => name ++ left ++ options ++ right
    | none => name ++ rest

def parts? (settings : Settings) (expression : List Char) : Option (List Char × List Char) :=
  (split? (Text.trimChars Text.isBlank expression)).map fun (rule, path, rest) =>
    (Text.trimChars Text.isBlank path,
      ruleToken settings.optionLeft.toList settings.optionRight.toList
        settings.optionDelimiter.toList (Text.trimChars Text.isBlank rule)
        (Text.trimChars Text.isBlank rest))

def parse (settings : Settings) (expression : String) : Except SetupError Target :=
  match parts? settings expression.toList with
  | some (path, rule) => .ok ⟨.ofList path, .ofList rule⟩
  | none => .error (.invalidExpression expression)

def call (settings : Settings) (target : Target) : Call :=
  .ofToken settings target.rule

theorem length_split? {s rule path rest : List Char} (h : split? s = some (rule, path, rest)) :
    rule.length + path.length + rest.length + 2 = s.length ∧ rule ≠ [] ∧ path ≠ [] := by
  unfold split? at h
  split at h
  · simp at h
  · next first tail hfirst =>
    split at h
    · simp at h
    · next second tail' hsecond =>
      have h₁ := Text.cutChars?_eq_some hfirst
      have h₂ := Text.cutChars?_eq_some hsecond
      simp only at h₁ h₂
      split at h
      · simp at h
      · next hempty =>
        simp only [Bool.or_eq_true, List.isEmpty_iff, not_or] at hempty
        simp only [Option.some.injEq, Prod.mk.injEq] at h
        obtain ⟨rfl, rfl, rfl⟩ := h
        subst h₁ h₂
        refine ⟨?_, hempty.1.1, hempty.1.2⟩
        simp only [List.length_append, List.length_singleton]
        omega

theorem length_ruleToken_le (left right delimiter name rest : List Char) :
    (ruleToken left right delimiter name rest).length ≤
      name.length + rest.length + left.length + right.length := by
  unfold ruleToken
  split
  · omega
  · split
    · next options hstrip =>
      have h := Text.stripChars?_eq_some hstrip
      subst h
      simp only [List.length_append]
      omega
    · simp only [List.length_append]
      omega

/-- The options of a path rule's call are shorter than the expression, whatever the tokens are. -/
theorem length_options_lt {settings : Settings} {expression : String} {target : Target}
    (h : parse settings expression = .ok target) :
    (target.call settings).options.length < expression.length := by
  unfold parse at h
  split at h
  · next path rule hparts =>
    obtain rfl := Except.ok.inj h
    obtain ⟨⟨first, second, rest⟩, hsplit, hmap⟩ := Option.map_eq_some_iff.1 hparts
    simp only [Prod.mk.injEq] at hmap
    obtain ⟨rfl, rfl⟩ := hmap
    obtain ⟨hlength, hfirst, hsecond⟩ := length_split? hsplit
    have hpos := List.length_pos_iff.2 hsecond
    have hname := Text.length_trimChars_le Text.isBlank first
    have hrest := Text.length_trimChars_le Text.isBlank rest
    have htrim := Text.length_trimChars_le Text.isBlank expression.toList
    have htoken := length_ruleToken_le settings.optionLeft.toList settings.optionRight.toList
      settings.optionDelimiter.toList (Text.trimChars Text.isBlank first)
      (Text.trimChars Text.isBlank rest)
    simp only [call, Call.ofToken, Call.parse, String.toList_ofList, String.length_ofList]
    rw [← String.length_toList (s := expression)]
    rcases Call.length_split_le settings.optionLeft.toList settings.optionRight.toList
      (ruleToken settings.optionLeft.toList settings.optionRight.toList
        settings.optionDelimiter.toList (Text.trimChars Text.isBlank first)
        (Text.trimChars Text.isBlank rest)) with hle | hnil
    · omega
    · rw [hnil]
      simp only [List.length_nil]
      omega
  · simp at h

end Target

end RuleChain
