import RuleChain.Path
import RuleChain.SetupError

/-!
# Settings

The tokens and modes that a run of rules depends on. Every token of the rule grammar must be
non-empty; the path delimiter may be empty, and paths are then single keys.
-/

namespace RuleChain

/-- What a run of rules depends on besides its rules. -/
structure Settings where
  defaultTemplate : String := "%s is not valid."
  pathDelimiter : String := Path.defaultDelimiter
  raiseFailures : Bool := false
  failureCode : UInt16 := 406
  ruleDelimiter : String := "|"
  optionLeft : String := "["
  optionRight : String := "]"
  optionDelimiter : String := ","
  rules : Table String := []
  deriving DecidableEq

namespace Settings

/-- The tokens of the rule grammar with their roles, in the order in which they are checked. -/
def requiredTokens (settings : Settings) : List (TokenRole × String) :=
  [(.rule, settings.ruleDelimiter), (.leftOption, settings.optionLeft),
    (.rightOption, settings.optionRight), (.option, settings.optionDelimiter)]

def check (settings : Settings) : Except SetupError Unit :=
  match settings.requiredTokens.find? (·.2 = "") with
  | some (role, _) => .error (.emptyDelimiter role)
  | none => .ok ()

def withRule (settings : Settings) (name handler : String) : Settings :=
  { settings with rules := Table.insertSorted settings.rules name handler }

theorem check_eq_ok_iff {settings : Settings} :
    settings.check = .ok () ↔ settings.ruleDelimiter ≠ "" ∧ settings.optionLeft ≠ "" ∧
      settings.optionRight ≠ "" ∧ settings.optionDelimiter ≠ "" := by
  rw [check]
  split
  · next role token h =>
    have hmem := List.mem_of_find?_eq_some h
    have htoken := List.find?_some h
    simp only [requiredTokens, List.mem_cons, Prod.mk.injEq, List.not_mem_nil, or_false] at hmem
    simp only [decide_eq_true_eq] at htoken
    subst htoken
    simp only [reduceCtorEq, false_iff]
    rintro ⟨h₁, h₂, h₃, h₄⟩
    rcases hmem with ⟨_, h⟩ | ⟨_, h⟩ | ⟨_, h⟩ | ⟨_, h⟩ <;> simp_all
  · next h =>
    simpa [requiredTokens] using h

end Settings

end RuleChain
