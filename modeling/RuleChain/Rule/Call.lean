import RuleChain.Settings
import RuleChain.Text.Blank
import RuleChain.Text.Search

/-!
# Rule calls and chains

A rule call is a name and the raw text of its options between brackets. A chain is a list of calls,
written with a delimiter between them or given token by token.
-/

namespace RuleChain

structure Call where
  /-- The name as written, without blanks around it. -/
  name : String
  options : String
  raw : String
  deriving DecidableEq

namespace Call

/-- The name and the options of a token, before trimming. The name runs to the first left bracket
and the options from there to the last right bracket, so that options may hold brackets; a token
without both is all name. -/
def split (left right token : List Char) : List Char × List Char :=
  match Text.cutChars? left token with
  | none => (token, [])
  | some (name, rest) =>
    match Text.cutLastChars? right rest with
    | none => (token, [])
    | some (options, _) => (name, options)

def parse (left right token : String) : Call :=
  let parts := split left.toList right.toList token.toList
  ⟨.ofList (Text.trimChars Text.isBlank parts.1), .ofList parts.2, token⟩

def ofToken (settings : Settings) (token : String) : Call :=
  parse settings.optionLeft settings.optionRight token

def isBlank (call : Call) : Bool :=
  call.name = ""

theorem length_split_le (left right token : List Char) :
    (split left right token).2.length + left.length + right.length ≤ token.length ∨
      (split left right token).2 = [] := by
  unfold split
  split
  · exact .inr rfl
  · next name rest hcut =>
    split
    · exact .inr rfl
    · next options _ hlast =>
      have h₁ := Text.cutChars?_eq_some hcut
      have h₂ := Text.cutLastChars?_eq_some hlast
      subst h₁ h₂
      simp only [List.length_append]
      omega

end Call

/-- A chain of rules, as one text or token by token. -/
inductive Chain where
  | text (s : String)
  | tokens (ts : List String)
  deriving DecidableEq

namespace Chain

/-- The tokens of a chain; tokens that are given are not split again. -/
def toTokens (delimiter : String) : Chain → List String
  | .text s => Text.split delimiter s
  | .tokens ts => ts

def calls (settings : Settings) (chain : Chain) : List Call :=
  (chain.toTokens settings.ruleDelimiter).map (Call.ofToken settings)

end Chain

end RuleChain
