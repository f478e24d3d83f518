import RuleChain.Builtin.Bound
import RuleChain.Proofs.DocumentCheck
import RuleChain.Proofs.ListAtPath
import RuleChain.Proofs.NumeralOptions
import RuleChain.Proofs.PlainPath
import RuleChain.Proofs.WildcardMatches

/-!
# Counting with a trailing wildcard

A path with the wildcard behind it stands for all children of a node, and a rule that counts judges
them at once. Main statement: with two children or more their number is compared. A single child
stands for itself, so that its own size is compared if it has one, and no child is null, which has
no size and passes no rule that counts.
-/

namespace RuleChain.Proofs
open RuleChain.Text

section Paths

variable {tokens : PathTokens}

lemma matching_append (segments more : List String) (node : Tree) :
    tokens.matching (segments ++ more) node =
      (tokens.matching segments node).flatMap (tokens.matching more) := by
  induction segments generalizing node with
  | nil => simp [PathTokens.matching]
  | cons segment rest ih => simp [PathTokens.matching, ih, List.flatMap_assoc]

/-- All children match the wildcard. -/
lemma matching_wildcard (node : Tree) :
    tokens.matching [tokens.wildcard] node = node.children.map Prod.snd := by
  have hall : ∀ child ∈ node.children, tokens.segmentMatches tokens.wildcard child.1 = true := by
    rintro ⟨key, child⟩ -
    cases key <;> simp [PathTokens.segmentMatches]
  rw [PathTokens.matching, List.filter_eq_self.2 hall, List.map_eq_flatMap]
  rfl

lemma matching_cons_of_ne {segment : String} (hne : segment ≠ tokens.wildcard) (rest : List String)
    {node : Tree} (hkeys : DistinctKeys node) :
    tokens.matching (segment :: rest) node =
      (PathTokens.exactChild? node segment).toList.flatMap (tokens.matching rest) := by
  rw [PathTokens.matching, ← List.flatMap_map, matching_children_of_ne hne hkeys]

lemma distinctKeys_of_exactChild? {node child : Tree} {segment : String} (h : DistinctKeys node)
    (hchild : PathTokens.exactChild? node segment = some child) : DistinctKeys child := by
  cases node with
  | object members => exact distinctKeys_of_child? h hchild
  | list items =>
    obtain ⟨i, -, hitem⟩ := Option.bind_eq_some_iff.1 hchild
    exact distinctKeys_list_iff.1 h child (List.mem_of_getElem? hitem)
  | _ => cases hchild

/-- Without wildcard a path has one match at most. -/
lemma length_matching_le_one {segments : List String}
    (hne : ∀ segment ∈ segments, segment ≠ tokens.wildcard) {node : Tree}
    (hkeys : DistinctKeys node) : (tokens.matching segments node).length ≤ 1 := by
  induction segments generalizing node with
  | nil => exact Nat.le_refl 1
  | cons segment rest ih =>
    rw [matching_cons_of_ne (hne segment List.mem_cons_self) rest hkeys]
    cases hchild : PathTokens.exactChild? node segment with
    | none => exact Nat.zero_le 1
    | some child =>
      have hbelow : DistinctKeys child := distinctKeys_of_exactChild? hkeys hchild
      simpa using ih (fun other h => hne other (List.mem_cons_of_mem _ h)) hbelow

/-- The node of a path without wildcard is its only match, unless a child of the root bears a path
of several segments as its key. -/
lemma matching_of_resolve {data node : Tree} (hkeys : DistinctKeys data) {path : String}
    (hpath : path ≠ tokens.wildcard)
    (hne : ∀ segment ∈ split tokens.delimiter path, segment ≠ tokens.wildcard)
    (hroot : tokens.delimiter.toList <:+: path.toList → ∀ value, ¬RootChild data path value)
    (hresolve : tokens.resolve data path .null = node) (hnode : node ≠ .null) :
    tokens.matching (split tokens.delimiter path) data = [node] := by
  cases hexact : PathTokens.exactChild? data path with
  | some value =>
    have hwhole : ¬tokens.delimiter.toList <:+: path.toList := fun hinside =>
      hroot hinside value (exactChild?_eq_some_iff.1 hexact)
    have hvalue : value = node := by
      rw [← hresolve, PathTokens.resolve, hexact]
    rw [split_eq_singleton tokens.delimiter_ne hwhole, matching_cons_of_ne hpath [] hkeys, hexact,
      hvalue]
    rfl
  | none =>
    have hone := length_matching_le_one hne hkeys
    simp only [PathTokens.resolve, hexact, if_neg hpath] at hresolve
    generalize tokens.matching (split tokens.delimiter path) data = found at hone hresolve
    obtain _ | ⟨value, _ | ⟨next, rest⟩⟩ := found
    · exact absurd hresolve.symm hnode
    · exact congrArg (fun v => [v]) hresolve
    · simp at hone

end Paths

section Counts

/-- The rules that count are found under their names. -/
structure CountRules (registry : Registry Handler) : Prop where
  less : registry.resolve "isCountLessThan" = .ok Builtin.isCountLessThan
  greater : registry.resolve "isCountGreaterThan" = .ok Builtin.isCountGreaterThan

variable {settings : Settings} {registry : Registry Handler} {size? : Tree → Option Nat}
variable {holds : Nat → Nat → Bool} {template : String} {value : Tree} {n : Nat}

lemma judged_sizeRule {call : Call}
    (hresolve : registry.resolve call.name = .ok (Builtin.sizeRule size? holds template))
    (hoptions : Invocation.options ⟨call, settings⟩ = [toString n]) :
    judged settings registry call value =
      if n < 2 ^ 64 then .ok (.check ((size? value).any (holds · n)) template value)
      else .error (Invocation.invalid ⟨call, settings⟩ (.notACount (toString n))) := by
  have hoption : (Invocation.options ⟨call, settings⟩)[0]? = some (toString n) := by
    rw [hoptions]
    rfl
  have hcount := count_of_toString hoption
  simp only [judged, hresolve, Judging.judge, Builtin.sizeRule, Handler.judge, hcount, bind,
    Except.bind, pure, Except.pure]
  by_cases hn : n < 2 ^ 64
  · have hword : n < 0x10000000000000000 := hn
    simp only [if_pos hn, if_pos hword]
  · have hword : ¬n < 0x10000000000000000 := hn
    simp only [if_neg hn, if_neg hword]

/-- A rule that counts lets a value pass if its limit is a count and the value has a size that holds
with it. -/
lemma valueJudged_sizeRule_iff (htokens : UsualTokens settings) {name : String}
    (hname : LetterName name)
    (hresolve : registry.resolve name = .ok (Builtin.sizeRule size? holds template)) :
    ValueJudged settings registry (bracketed name [toString n]) value (.ok ()) ↔
      n < 2 ^ 64 ∧ ∃ size, size? value = some size ∧ holds size n = true := by
  have hnumeral : ∀ option ∈ [toString n], IsNumeral option := by
    simpa using isNumeral_nat n
  obtain ⟨call, hcalls, hcall, hread⟩ :=
    exists_call_of_numerals htokens hname hnumeral (List.cons_ne_nil _ _) (.inr rfl)
  have hnamed : registry.resolve call.name = .ok (Builtin.sizeRule size? holds template) := by
    rw [hcall, hresolve]
  have hjudged := @judged_sizeRule _ _ _ _ _ value _ _ hnamed hread
  by_cases hn : n < 2 ^ 64
  · rw [if_pos hn] at hjudged
    rw [valueJudged_ok_iff hcalls hjudged, Option.any_eq_true, and_iff_right hn]
  · rw [if_neg hn] at hjudged
    exact iff_of_false (not_valueJudged_ok hcalls hjudged) fun h => hn h.1

end Counts

section Checks

/-- What a list of matches is resolved to. -/
def collapse : List Tree → Tree
  | [] => .null
  | [value] => value
  | values => .list values

lemma collapse_of_two_le {values : List Tree} (h : 2 ≤ values.length) :
    collapse values = .list values := by
  match values, h with
  | first :: second :: rest, _ => rfl

/-- A path without wildcard leads to a list or an object, and no child of the root comes before what
the segments lead to, neither for the path nor with the wildcard behind it. -/
structure Reaches (data : Tree) (path : String) (node : Tree) : Prop where
  resolves : PathTokens.usual.resolve data path .null = node
  isContainer : node.isContainer = true
  no_wildcard : ∀ segment ∈ split "." path, segment ≠ "*"
  no_key : '.' ∈ path.toList → ∀ value, ¬RootChild data path value
  no_starred_key : ∀ value, ¬RootChild data (path ++ ".*") value

lemma split_starred (path : String) : split "." (path ++ ".*") = split "." path ++ ["*"] := by
  have hpieces := splitChars_append_char '.' path.toList ['*']
  have hstar : splitChars ['.'] ['*'] = [['*']] := by decide
  rw [hstar] at hpieces
  simp only [split, String.toList_append]
  exact (congrArg (List.map String.ofList) hpieces).trans List.map_append

lemma ne_starred (path : String) : path ++ ".*" ≠ "*" := by
  intro h
  have hchars : path.toList ++ ['.', '*'] = ['*'] := by simpa using congrArg String.toList h
  simpa using congrArg List.length hchars

lemma resolve_starred {data node : Tree} (hkeys : DistinctKeys data) {path : String}
    (hreaches : Reaches data path node) :
    PathTokens.usual.resolve data (path ++ ".*") .null = collapse (node.children.map Prod.snd) := by
  have hpath : path ≠ "*" := by
    rintro rfl
    have hsegments : split "." "*" = ["*"] := by rfl
    exact hreaches.no_wildcard "*" (by rw [hsegments]; exact List.mem_singleton_self _) rfl
  have hroot : ".".toList <:+: path.toList → ∀ value, ¬RootChild data path value := fun hinside =>
    hreaches.no_key (hinside.subset (by simp))
  have hnode : node ≠ .null := by
    rintro rfl
    cases hreaches.isContainer
  have hone : PathTokens.usual.matching (split "." path) data = [node] :=
    matching_of_resolve hkeys hpath hreaches.no_wildcard hroot hreaches.resolves hnode
  have hmatching :
      PathTokens.usual.matching (split PathTokens.usual.delimiter (path ++ ".*")) data =
        node.children.map Prod.snd := by
    have hsplit : split PathTokens.usual.delimiter (path ++ ".*") = split "." path ++ ["*"] :=
      split_starred path
    rw [hsplit, matching_append, hone, List.flatMap_singleton]
    exact matching_wildcard node
  have hexact : PathTokens.exactChild? data (path ++ ".*") = none :=
    exactChild?_eq_none_iff.2 hreaches.no_starred_key
  have hstar : path ++ ".*" ≠ PathTokens.usual.wildcard := ne_starred path
  simp only [PathTokens.resolve, hexact, if_neg hstar, hmatching]
  rcases node.children.map Prod.snd with _ | ⟨child, _ | ⟨next, rest⟩⟩ <;> rfl

/-- Behind a trailing wildcard one value is judged. -/
lemma targets_starred (data : Tree) (path : String) :
    PathTokens.usual.targets data (path ++ ".*") =
      [PathTokens.usual.resolve data (path ++ ".*") .null] := by
  have hend : PathTokens.usual.wildcard.toList <:+ (path ++ ".*").toList :=
    ⟨path.toList ++ ['.'], by simp [PathTokens.usual]⟩
  symm
  rw [← targets_iff]
  cases hvalue : PathTokens.usual.resolve data (path ++ ".*") .null with
  | list items => exact .whole hvalue hend
  | _ => exact .single hvalue (by simp [Tree.kind])

end Checks

section Expressions

/-- A path that can be written in front of a wildcard in a rule of a chain. -/
structure WritablePath (path : String) : Prop where
  starts_solid : ∀ c ∈ path.toList.head?, isBlank c = false
  closed : ')' ∉ path.toList
  one_rule : '|' ∉ path.toList

/-- A rule for the values behind a trailing wildcard, with a number as its option. -/
def starredRule (name path : String) (n : Nat) : String :=
  name ++ "(" ++ path ++ ".*)[" ++ toString n ++ "]"

variable {name path : String} (hname : LetterName name) (hpath : WritablePath path)

include hname hpath

lemma head_starred : Head name (path ++ ".*") where
  name_ne := hname.ne
  name_trimmed := hname.trimmed
  name_closed := hname.not_mem rfl
  path_ne := by simp
  path_trimmed := by
    apply trim_eq_self
    · intro c hc
      cases hchars : path.toList with
      | nil =>
        have hdot : c = '.' := by simpa [hchars, eq_comm] using hc
        exact hdot ▸ rfl
      | cons d s =>
        have hfirst : c ∈ path.toList.head? := by simpa [hchars] using hc
        exact hpath.starts_solid c hfirst
    · intro c hc
      have hstar : c = '*' := by simpa [eq_comm] using hc
      exact hstar ▸ rfl
  path_closed := by simp [hpath.closed]

lemma toTokens_starredRule (n : Nat) :
    (Chain.text (starredRule name path n)).toTokens "|" = [starredRule name path n] := by
  have hnumeral : '|' ∉ (toString n).toList := (isNumeral_nat n).not_mem (by decide)
  have hbar : '|' ∉ (starredRule name path n).toList := by
    simp only [starredRule, String.toList_append, List.mem_append, not_or]
    exact ⟨⟨⟨⟨⟨hname.not_mem rfl, by simp⟩, hpath.one_rule⟩, by simp⟩, hnumeral⟩, by simp⟩
  exact split_eq_singleton (by simp) fun hinside => hbar (hinside.subset (by simp))

variable {settings : Settings} (htokens : UsualTokens settings)

include htokens

lemma parse_starredRule (n : Nat) :
    Target.parse settings (starredRule name path n) =
      .ok ⟨path ++ ".*", bracketed name [toString n]⟩ := by
  have hexpression : starredRule name path n =
      pathRule settings name (path ++ ".*") (toString n) := by
    rw [← String.toList_inj]
    simp [starredRule, pathRule, inBrackets, htokens.left, htokens.right]
  have hrule : name ++ inBrackets settings (toString n) = bracketed name [toString n] := by
    rw [inBrackets, bracketed, join_singleton, htokens.left, htokens.right]
  have hline : '\n' ∉ (toString n).toList :=
    newline_not_mem fun _ hc => (isNumeral_nat n).not_isBlank hc
  have hhead : Head name (path ++ ".*") := head_starred hname hpath
  rw [hexpression, parse_pathRule htokens.check htokens.optionTokens hhead hline, hrule]

end Expressions

section Verdicts

variable {checker : DocumentChecker Handler} (hreached : CheckerReached checker)
variable (hpaths : checker.tokens = .usual) (htokens : UsualTokens checker.engine.settings)
variable {value data : Tree} (hstands : StandsFor value data) {path name : String}
variable (hpath : WritablePath path) (hname : LetterName name) {size? : Tree → Option Nat}
variable {holds : Nat → Nat → Bool} {template : String}
variable
  (hresolve : checker.engine.registry.resolve name = .ok (Builtin.sizeRule size? holds template))

include hreached hpaths htokens hstands hpath hname hresolve

/-- A rule that counts is asked about the value that the path with the wildcard resolves to. -/
lemma check_starredRule_iff (n : Nat) :
    (checker.check value (.text (starredRule name path n))).1 = .ok () ↔
      n < 2 ^ 64 ∧ ∃ size, size? (PathTokens.usual.resolve data (path ++ ".*") .null) = some size ∧
        holds size n = true := by
  have hrules : (Chain.text (starredRule name path n)).toTokens
      checker.engine.settings.ruleDelimiter = [starredRule name path n] := by
    rw [htokens.rules]
    exact toTokens_starredRule hname hpath n
  have hparse := parse_starredRule hname hpath htokens n
  rw [check_ok_iff_of_parse hreached hstands hrules hparse, hpaths, targets_starred,
    List.forall_mem_singleton, valueJudged_sizeRule_iff htokens hname hresolve]

lemma check_children_iff {node : Tree} (hkeys : DistinctKeys data)
    (hreaches : Reaches data path node) (n : Nat) :
    (checker.check value (.text (starredRule name path n))).1 = .ok () ↔
      n < 2 ^ 64 ∧ ∃ size, size? (collapse (node.children.map Prod.snd)) = some size ∧
        holds size n = true := by
  rw [← resolve_starred hkeys hreaches]
  exact check_starredRule_iff hreached hpaths htokens hstands hpath hname hresolve n

end Verdicts

/-- What the rules that count make of the children of a node that a path without wildcard leads to,
when the path has a wildcard behind it. Of two children or more the number is compared with the
option; of a single child the size, if it has one; and without children no check passes. An option
that takes more than 64 bits is no count, and no check passes with it. -/
theorem trailing_wildcard_counts_several_children {checker : DocumentChecker Handler}
    (hreached : CheckerReached checker) (hpaths : checker.tokens = .usual)
    (htokens : UsualTokens checker.engine.settings) (hrules : CountRules checker.engine.registry)
    {value data : Tree} (hstands : StandsFor value data) (hkeys : DistinctKeys data)
    {path : String} (hpath : WritablePath path) {node : Tree} (hreaches : Reaches data path node)
    (n : Nat) :
    let children := node.children.map Prod.snd
    let Fewer := (checker.check value (.text (starredRule "isCountLessThan" path n))).1 = .ok ()
    let More := (checker.check value (.text (starredRule "isCountGreaterThan" path n))).1 = .ok ()
    (2 ≤ children.length →
      (Fewer ↔ n < 2 ^ 64 ∧ children.length < n) ∧ (More ↔ n < 2 ^ 64 ∧ n < children.length)) ∧
    (∀ child, children = [child] →
      (Fewer ↔ n < 2 ^ 64 ∧ ∃ size, child.count? = some size ∧ size < n) ∧
      (More ↔ n < 2 ^ 64 ∧ ∃ size, child.count? = some size ∧ n < size)) ∧
    (children = [] → ¬Fewer ∧ ¬More) := by
  intro children Fewer More
  have hfewer := check_children_iff hreached hpaths htokens hstands hpath ⟨by decide, by decide⟩
    hrules.less hkeys hreaches n
  have hmore := check_children_iff hreached hpaths htokens hstands hpath ⟨by decide, by decide⟩
    hrules.greater hkeys hreaches n
  simp only [decide_eq_true_eq] at hfewer hmore
  refine ⟨fun hseveral => ?_, fun child hchild => ?_, fun hnil => ?_⟩
  · have hlist : collapse children = .list children := collapse_of_two_le hseveral
    exact ⟨hfewer.trans (by simp [children, hlist, Tree.count?]),
      hmore.trans (by simp [children, hlist, Tree.count?])⟩
  · have hone : collapse children = child := by rw [hchild, collapse]
    exact ⟨hone ▸ hfewer, hone ▸ hmore⟩
  · have hnull : collapse children = .null := by rw [hnil, collapse]
    simp only [children] at hnull
    rw [hnull] at hfewer hmore
    exact ⟨fun h => by simpa [Tree.count?] using hfewer.1 h,
      fun h => by simpa [Tree.count?] using hmore.1 h⟩

section Sample

def countEngine : Engine Handler where
  settings := {}
  registry :=
    { names := [("iscountlessthan", "compare::count_less_than"),
        ("iscountgreaterthan", "compare::count_greater_than")]
      handlers := [("compare::count_less_than", Builtin.isCountLessThan),
        ("compare::count_greater_than", Builtin.isCountGreaterThan)] }
  delimiter := "."
  rejections := []
  currentKey := ""
  current := .null

def countChecker : DocumentChecker Handler :=
  .ofEngine countEngine

/-- Lists of three items, of one and of none, and one of two under a key with the delimiter in it. -/
def basket : Tree :=
  .object [("fruit", .list [.null, .text "ripe", .null]), ("nuts", .list [.bool true]),
    ("bread", .list []), ("dried.figs", .list [.null, .null])]

lemma countChecker_reached : CheckerReached countChecker := .ofEngine countEngine

lemma countChecker_tokens : UsualTokens countChecker.engine.settings := ⟨rfl, rfl, rfl, rfl⟩

lemma resolve_isCountLessThan :
    countChecker.engine.registry.resolve "isCountLessThan" = .ok Builtin.isCountLessThan := rfl

lemma resolve_isCountGreaterThan :
    countChecker.engine.registry.resolve "isCountGreaterThan" = .ok Builtin.isCountGreaterThan :=
  rfl

lemma countChecker_rules : CountRules countChecker.engine.registry :=
  ⟨resolve_isCountLessThan, resolve_isCountGreaterThan⟩

lemma basket_standsFor : StandsFor basket basket := .itself rfl

lemma basket_distinctKeys : DistinctKeys basket := by
  have htext (s : String) : DistinctKeys (.text s) := distinctKeys_of_leaf rfl
  have hbool (b : Bool) : DistinctKeys (.bool b) := distinctKeys_of_leaf rfl
  have hnull : DistinctKeys .null := distinctKeys_of_leaf rfl
  simp [basket, distinctKeys_object_iff, distinctKeys_list_iff, htext, hbool, hnull, Table.keys]

lemma basket_reaches {key : String} {items : List Tree}
    (hitems : PathTokens.usual.resolve basket key .null = .list items)
    (hsplit : split "." key = [key]) (hkey : key ≠ "*" ∧ '.' ∉ key.toList)
    (hstarred : PathTokens.exactChild? basket (key ++ ".*") = none) :
    Reaches basket key (.list items) where
  resolves := hitems
  isContainer := rfl
  no_wildcard := by simpa [hsplit] using hkey.1
  no_key hdot := absurd hdot hkey.2
  no_starred_key := exactChild?_eq_none_iff.1 hstarred

lemma basket_reaches_fruit : Reaches basket "fruit" (.list [.null, .text "ripe", .null]) :=
  basket_reaches (by rfl) (by rfl) (by decide) (by rfl)

lemma basket_reaches_nuts : Reaches basket "nuts" (.list [.bool true]) :=
  basket_reaches (by rfl) (by rfl) (by decide) (by rfl)

lemma basket_reaches_bread : Reaches basket "bread" (.list []) :=
  basket_reaches (by rfl) (by rfl) (by decide) (by rfl)

theorem fruit_is_counted :
    CheckerReached countChecker ∧ UsualTokens countChecker.engine.settings ∧
      CountRules countChecker.engine.registry ∧ DistinctKeys basket ∧ WritablePath "fruit" ∧
      Reaches basket "fruit" (.list [.null, .text "ripe", .null]) ∧
      (countChecker.check basket (.text "isCountLessThan(fruit.*)[4]")).1 = .ok () ∧
      (countChecker.check basket (.text "isCountGreaterThan(fruit.*)[4]")).1 ≠ .ok () := by
  have hpath : WritablePath "fruit" := ⟨by simp [isBlank], by decide, by decide⟩
  have hless : "isCountLessThan(fruit.*)[4]" = starredRule "isCountLessThan" "fruit" 4 := by rfl
  have hgreater : "isCountGreaterThan(fruit.*)[4]" =
      starredRule "isCountGreaterThan" "fruit" 4 := by rfl
  obtain ⟨hseveral, -, -⟩ := trailing_wildcard_counts_several_children countChecker_reached rfl
    countChecker_tokens countChecker_rules basket_standsFor basket_distinctKeys hpath
    basket_reaches_fruit 4
  obtain ⟨hfewer, hmore⟩ := hseveral (by decide)
  refine ⟨countChecker_reached, countChecker_tokens, countChecker_rules, basket_distinctKeys, hpath,
    basket_reaches_fruit, ?_, ?_⟩
  · rw [hless]
    exact hfewer.2 (by decide)
  · rw [hgreater]
    exact fun h => absurd (hmore.1 h) (by decide)

lemma basket_check_iff {key : String} (hkey : WritablePath key) (n : Nat) :
    (countChecker.check basket (.text (starredRule "isCountLessThan" key n))).1 = .ok () ↔
      n < 2 ^ 64 ∧ ∃ size,
        (PathTokens.usual.resolve basket (key ++ ".*") .null).count? = some size ∧ size < n := by
  have hname : LetterName "isCountLessThan" := ⟨by decide, by decide⟩
  simpa using check_starredRule_iff countChecker_reached rfl countChecker_tokens basket_standsFor
    hkey hname resolve_isCountLessThan n

lemma basket_check_fails {key : String} (hkey : WritablePath key)
    (hcount : (PathTokens.usual.resolve basket (key ++ ".*") .null).count? = none) (n : Nat) :
    (countChecker.check basket (.text (starredRule "isCountLessThan" key n))).1 ≠ .ok () := by
  rw [Ne, basket_check_iff hkey, hcount]
  rintro ⟨-, size, hsize, -⟩
  cases hsize

/-- One child is fewer than two and no child is fewer than one, but neither check passes. Nor does
one with a number beyond a word, or with a path that is a key of the root for itself. -/
theorem nuts_and_bread_are_not_counted :
    Reaches basket "nuts" (.list [.bool true]) ∧
      (countChecker.check basket (.text "isCountLessThan(nuts.*)[2]")).1 ≠ .ok () ∧
      Reaches basket "bread" (.list []) ∧
      (countChecker.check basket (.text "isCountLessThan(bread.*)[1]")).1 ≠ .ok () ∧
      Reaches basket "fruit" (.list [.null, .text "ripe", .null]) ∧
      (countChecker.check basket (.text "isCountLessThan(fruit.*)[18446744073709551616]")).1 ≠
        .ok () ∧
      PathTokens.usual.resolve basket "dried.figs" .null = .list [.null, .null] ∧
      (countChecker.check basket (.text "isCountLessThan(dried.figs.*)[3]")).1 ≠ .ok () := by
  have hnuts : "isCountLessThan(nuts.*)[2]" = starredRule "isCountLessThan" "nuts" 2 := by rfl
  have hbread : "isCountLessThan(bread.*)[1]" = starredRule "isCountLessThan" "bread" 1 := by rfl
  have hfruit : "isCountLessThan(fruit.*)[18446744073709551616]" =
      starredRule "isCountLessThan" "fruit" 18446744073709551616 := by rfl
  have hfigs : "isCountLessThan(dried.figs.*)[3]" =
      starredRule "isCountLessThan" "dried.figs" 3 := by rfl
  refine ⟨basket_reaches_nuts, ?_, basket_reaches_bread, ?_, basket_reaches_fruit, ?_, by rfl, ?_⟩
  · rw [hnuts]
    exact basket_check_fails ⟨by simp [isBlank], by decide, by decide⟩ (by rfl) 2
  · rw [hbread]
    exact basket_check_fails ⟨by simp [isBlank], by decide, by decide⟩ (by rfl) 1
  · rw [hfruit, Ne, basket_check_iff ⟨by simp [isBlank], by decide, by decide⟩]
    rintro ⟨hword, -⟩
    exact absurd hword (by decide)
  · rw [hfigs]
    exact basket_check_fails ⟨by simp [isBlank], by decide, by decide⟩ (by rfl) 3

end Sample

end RuleChain.Proofs
