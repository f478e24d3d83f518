import RuleChain.Text.Case.Table
import RuleChain.Text.CodePoint

/-!
# Letter case

Full case mapping, character by character: one character may give several. The only mapping that
looks at its neighbours is the lower case of a capital sigma, which has a form of its own at the
end of a word.
-/

namespace RuleChain.Text

/-- The image of a code point under the first run that holds it. -/
def CaseRun.apply? (runs : List CaseRun) (n : Nat) : Option Nat :=
  (runs.find? fun run => run.first ≤ n && n ≤ run.last && (n - run.first) % run.step == 0).map
    fun run => ((n : Int) + run.shift).toNat

/-- The characters that `c` maps to; itself, where the tables do not name it. -/
def mapCase (runs : List CaseRun) (expansions : List (Nat × List Nat)) (c : Char) : List Char :=
  match expansions.lookup c.toNat with
  | some image => image.map Char.ofNat
  | none =>
    match CaseRun.apply? runs c.toNat with
    | some image => [Char.ofNat image]
    | none => [c]

/-- Whether the first character that is not ignored for case is cased. -/
def startsCased (s : List Char) : Bool :=
  match s.dropWhile (inRanges caseIgnorableRanges) with
  | [] => false
  | c :: _ => inRanges casedRanges c

/-- The lower case of a capital sigma: the final form after a cased letter and before none. -/
def lowerSigma (before after : List Char) : Char :=
  if startsCased before && !startsCased after then 'ς' else 'σ'

/-- The lower case of a text, of which `before` has been read, the last character first. -/
def lowerFrom (before : List Char) : List Char → List Char
  | [] => []
  | c :: cs =>
    (if c = 'Σ' then [lowerSigma before cs] else mapCase lowerRuns lowerExpansions c) ++
      lowerFrom (c :: before) cs

def lower (s : String) : String :=
  .ofList (lowerFrom [] s.toList)

def upper (s : String) : String :=
  .ofList (s.toList.flatMap (mapCase upperRuns upperExpansions))

end RuleChain.Text
