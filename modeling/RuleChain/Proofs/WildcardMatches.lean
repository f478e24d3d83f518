import Mathlib.Data.List.Forall2
import Mathlib.Tactic.Lemma
import RuleChain.Path.Wildcard

/-!
# Matches of a wildcard path

A node of a tree is described by the way that leads to it: the positions and keys of the children
passed on the way. The segments of a wildcard path describe ways, key by key. Main statement: what a
path resolves to is determined by the nodes on all the ways that fit its segments, in document order,
each of them once.
-/

namespace RuleChain.Proofs

/-- A way down a tree: at each step the position of a child among its siblings, and its key. -/
abbrev Way := List (Nat × ChildKey)

/-- A way leads from a value to a node below it. -/
inductive Leads : Tree → Way → Tree → Prop where
  | here (node : Tree) : Leads node [] node
  | member {members i key child way last} (h : members[i]? = some (key, child))
      (hrest : Leads child way last) : Leads (.object members) ((i, .name key) :: way) last
  | item {items i child way last} (h : items[i]? = some child)
      (hrest : Leads child way last) : Leads (.list items) ((i, .index i) :: way) last

/-- The order in which a document lists its nodes at one depth. -/
def Before (way other : Way) : Prop :=
  way.map Prod.fst < other.map Prod.fst

/-- A text is a numeral of a word: ASCII digits only, with a value of at most 64 bits. -/
def Numeral (s : String) (n : Nat) : Prop :=
  s.toList ≠ [] ∧ (∀ c ∈ s.toList, c.isDigit) ∧ Text.digitsValue s.toList = n ∧
    n < 0x10000000000000000

/-- A key fits a segment: the segment is the wildcard, the key itself, or a numeral of the index. -/
inductive Fits (wildcard segment : String) : ChildKey → Prop where
  | wildcard {key} (h : segment = wildcard) : Fits wildcard segment key
  | name {key} (h : segment = key) : Fits wildcard segment (.name key)
  | index {i} (h : Numeral segment i) : Fits wildcard segment (.index i)

/-- A child of the root that the whole path names, delimiters and all. -/
inductive RootChild : Tree → String → Tree → Prop where
  | member {members path value} (h : Table.get? members path = some value) :
      RootChild (.object members) path value
  | item {items path i value} (hpath : Numeral path i) (h : items[i]? = some value) :
      RootChild (.list items) path value

/-- All nodes of a tree on ways that fit some segments, with these ways: none is missing, and each
comes once, in the order of the document. -/
structure Matches (wildcard : String) (segments : List String) (data : Tree)
    (found : List (Way × Tree)) : Prop where
  complete : ∀ way node, (way, node) ∈ found ↔
    Leads data way node ∧ List.Forall₂ (Fits wildcard) segments (way.map Prod.snd)
  ordered : found.Pairwise fun m other => Before m.1 other.1

section Segments

lemma plainIndex?_eq_some_iff {s : String} {i : Nat} : plainIndex? s = some i ↔ Numeral s i := by
  unfold plainIndex? Numeral
  split
  · next hnumeral =>
    obtain ⟨hne, hdigits⟩ := Text.isNumeral_iff.1 hnumeral
    rw [Text.readCount?_of_isNumeral hnumeral]
    simp only [Option.ite_none_right_eq_some, Option.some.injEq]
    constructor
    · rintro ⟨hlt, rfl⟩
      exact ⟨hne, hdigits, rfl, hlt⟩
    · rintro ⟨-, -, rfl, hlt⟩
      exact ⟨hlt, rfl⟩
  · next hnumeral =>
    simp only [reduceCtorEq, false_iff]
    rintro ⟨hne, hdigits, -⟩
    exact hnumeral (Text.isNumeral_iff.2 ⟨hne, hdigits⟩)

lemma segmentMatches_iff {tokens : PathTokens} {segment : String} {key : ChildKey} :
    tokens.segmentMatches segment key = true ↔ Fits tokens.wildcard segment key := by
  constructor
  · intro h
    cases key with
    | name key =>
      simp only [PathTokens.segmentMatches, Bool.or_eq_true, beq_iff_eq] at h
      exact h.elim .wildcard fun h => .name h.symm
    | index i =>
      simp only [PathTokens.segmentMatches, Bool.or_eq_true, beq_iff_eq] at h
      exact h.elim .wildcard fun h => .index (plainIndex?_eq_some_iff.1 h)
  · intro h
    cases h with
    | wildcard h => cases key <;> simp [PathTokens.segmentMatches, h]
    | name h => simp [PathTokens.segmentMatches, h]
    | index h => simp [PathTokens.segmentMatches, plainIndex?_eq_some_iff.2 h]

lemma exactChild?_eq_some_iff {data value : Tree} {path : String} :
    PathTokens.exactChild? data path = some value ↔ RootChild data path value := by
  constructor
  · intro h
    cases data with
    | object members => exact .member h
    | list items =>
      obtain ⟨i, hpath, hitem⟩ := Option.bind_eq_some_iff.1 h
      exact .item (plainIndex?_eq_some_iff.1 hpath) hitem
    | _ => cases h
  · intro h
    cases h with
    | member h => exact h
    | item hpath h => simp [PathTokens.exactChild?, plainIndex?_eq_some_iff.2 hpath, h]

lemma exactChild?_eq_none_iff {data : Tree} {path : String} :
    PathTokens.exactChild? data path = none ↔ ∀ value, ¬RootChild data path value := by
  simp only [Option.eq_none_iff_forall_ne_some, Ne, exactChild?_eq_some_iff]

end Segments

section Ways

/-- The children of a value, each with the step that leads to it. -/
def steps (node : Tree) : List ((Nat × ChildKey) × Tree) :=
  node.children.mapIdx fun i child => ((i, child.1), child.2)

lemma mem_steps_iff {node child : Tree} {i : Nat} {key : ChildKey} :
    ((i, key), child) ∈ steps node ↔ node.children[i]? = some (key, child) := by
  simp only [steps, List.mem_mapIdx, Prod.mk.injEq, List.getElem?_eq_some_iff]
  constructor
  · rintro ⟨j, hj, ⟨rfl, rfl⟩, rfl⟩
    exact ⟨hj, rfl⟩
  · rintro ⟨hi, h⟩
    exact ⟨i, hi, ⟨rfl, by rw [h]⟩, by rw [h]⟩

lemma map_steps (node : Tree) : (steps node).map (fun s => (s.1.2, s.2)) = node.children := by
  apply List.ext_getElem <;> simp [steps]

lemma steps_pairwise (node : Tree) : (steps node).Pairwise fun s t => s.1.1 < t.1.1 := by
  rw [List.pairwise_iff_getElem]
  intro i j hi hj hij
  simpa [steps] using hij

lemma leads_nil_iff {node last : Tree} : Leads node [] last ↔ last = node := by
  constructor
  · rintro ⟨⟩
    rfl
  · rintro rfl
    exact .here last

lemma leads_cons_iff {node last : Tree} {step : Nat × ChildKey} {way : Way} :
    Leads node (step :: way) last ↔ ∃ child, (step, child) ∈ steps node ∧ Leads child way last := by
  obtain ⟨i, key⟩ := step
  simp only [mem_steps_iff]
  constructor
  · intro h
    cases h with
    | member h hrest => exact ⟨_, by simp [Tree.children, h], hrest⟩
    | item h hrest => exact ⟨_, by simp [Tree.children, h], hrest⟩
  · rintro ⟨child, hchild, hrest⟩
    cases node with
    | object members =>
      simp only [Tree.children, List.getElem?_map, Option.map_eq_some_iff, Prod.mk.injEq] at hchild
      obtain ⟨⟨name, value⟩, hmember, rfl, rfl⟩ := hchild
      exact .member hmember hrest
    | list items =>
      simp only [Tree.children, List.getElem?_mapIdx, Option.map_eq_some_iff, Prod.mk.injEq]
        at hchild
      obtain ⟨item, hitem, rfl, rfl⟩ := hchild
      exact .item hitem hrest
    | _ => simp [Tree.children] at hchild

/-- The matches of some segments with the ways that lead to them. -/
def matchingWays (tokens : PathTokens) : List String → Tree → List (Way × Tree)
  | [], node => [([], node)]
  | segment :: rest, node =>
    ((steps node).filter fun s => tokens.segmentMatches segment s.1.2).flatMap fun s =>
      (matchingWays tokens rest s.2).map fun m => (s.1 :: m.1, m.2)

lemma map_matchingWays (tokens : PathTokens) (segments : List String) (node : Tree) :
    (matchingWays tokens segments node).map Prod.snd = tokens.matching segments node := by
  induction segments generalizing node with
  | nil => rfl
  | cons segment rest ih =>
    rw [matchingWays, PathTokens.matching, ← map_steps node, List.filter_map, List.flatMap_map,
      List.map_flatMap]
    refine List.flatMap_congr fun s _ => ?_
    rw [List.map_map, ← ih s.2]
    rfl

lemma mem_matchingWays_iff {tokens : PathTokens} {segments : List String} {node last : Tree}
    {way : Way} :
    (way, last) ∈ matchingWays tokens segments node ↔
      Leads node way last ∧ List.Forall₂ (Fits tokens.wildcard) segments (way.map Prod.snd) := by
  induction segments generalizing node way with
  | nil =>
    simp only [matchingWays, List.mem_singleton, Prod.mk.injEq, List.forall₂_nil_left_iff,
      List.map_eq_nil_iff]
    constructor
    · rintro ⟨rfl, rfl⟩
      exact ⟨.here last, rfl⟩
    · rintro ⟨h, rfl⟩
      exact ⟨rfl, leads_nil_iff.1 h⟩
  | cons segment rest ih =>
    simp only [matchingWays, List.mem_flatMap, List.mem_filter, List.mem_map, Prod.mk.injEq,
      segmentMatches_iff]
    constructor
    · rintro ⟨⟨step, child⟩, ⟨hstep, hfits⟩, ⟨below, node'⟩, hbelow, rfl, rfl⟩
      obtain ⟨hleads, hrest⟩ := ih.1 hbelow
      exact ⟨leads_cons_iff.2 ⟨child, hstep, hleads⟩, .cons hfits hrest⟩
    · rintro ⟨hleads, hall⟩
      cases way with
      | nil => cases hall
      | cons step below =>
        obtain ⟨hfits, hrest⟩ := List.forall₂_cons.1 hall
        obtain ⟨child, hstep, hbelow⟩ := leads_cons_iff.1 hleads
        exact ⟨(step, child), ⟨hstep, hfits⟩, (below, last), ih.2 ⟨hbelow, hrest⟩, rfl, rfl⟩

lemma before_cons_of_before {way other : Way} (step : Nat × ChildKey) (h : Before way other) :
    Before (step :: way) (step :: other) :=
  List.Lex.cons h

lemma before_cons_of_lt {step step' : Nat × ChildKey} (h : step.1 < step'.1) (way other : Way) :
    Before (step :: way) (step' :: other) :=
  List.Lex.rel h

/-- Ways through an earlier child come before all ways through a later one. -/
lemma pairwise_before_flatMap {children : List ((Nat × ChildKey) × Tree)}
    {through : (Nat × ChildKey) × Tree → List (Way × Tree)}
    (hchildren : children.Pairwise fun s t => s.1.1 < t.1.1)
    (hthrough : ∀ s ∈ children, (through s).Pairwise fun m other => Before m.1 other.1)
    (hstart : ∀ s, ∀ m ∈ through s, ∃ below, m.1 = s.1 :: below) :
    (children.flatMap through).Pairwise fun m other => Before m.1 other.1 := by
  rw [List.pairwise_flatMap]
  refine ⟨hthrough, hchildren.imp fun {s t} hlt m hm other hother => ?_⟩
  obtain ⟨below, hbelow⟩ := hstart s m hm
  obtain ⟨below', hbelow'⟩ := hstart t other hother
  rw [hbelow, hbelow']
  exact before_cons_of_lt hlt below below'

lemma matchingWays_pairwise (tokens : PathTokens) (segments : List String) (node : Tree) :
    (matchingWays tokens segments node).Pairwise fun m other => Before m.1 other.1 := by
  induction segments generalizing node with
  | nil => simp [matchingWays]
  | cons segment rest ih =>
    rw [matchingWays]
    apply pairwise_before_flatMap ((steps_pairwise node).filter _)
    · intro s _
      rw [List.pairwise_map]
      exact (ih s.2).imp fun h => before_cons_of_before s.1 h
    · intro s m hm
      obtain ⟨below, -, rfl⟩ := List.mem_map.1 hm
      exact ⟨below.1, rfl⟩

lemma matches_matchingWays (tokens : PathTokens) (segments : List String) (data : Tree) :
    Matches tokens.wildcard segments data (matchingWays tokens segments data) where
  complete _ _ := mem_matchingWays_iff
  ordered := matchingWays_pairwise tokens segments data

lemma Before.asymm {way other : Way} (h : Before way other) : ¬Before other way :=
  List.lt_asymm h

/-- The matches of some segments are determined by what they are. -/
lemma Matches.unique {wildcard : String} {segments : List String} {data : Tree}
    {found other : List (Way × Tree)} (h : Matches wildcard segments data found)
    (hother : Matches wildcard segments data other) : found = other := by
  have nodup {l : List (Way × Tree)} (hl : l.Pairwise fun m m' => Before m.1 m'.1) : l.Nodup := by
    refine hl.imp fun {m m'} hbefore heq => ?_
    subst heq
    exact hbefore.asymm hbefore
  have hperm : found.Perm other := by
    rw [List.perm_ext_iff_of_nodup (nodup h.ordered) (nodup hother.ordered)]
    rintro ⟨way, node⟩
    rw [h.complete, hother.complete]
  exact hperm.eq_of_pairwise (fun m m' _ _ hm hm' => absurd hm' hm.asymm) h.ordered hother.ordered

end Ways

/-- What a path resolves to. A child of the root that bears the whole path as its key comes first,
and then a lone wildcard is the whole tree. Otherwise the nodes count whose ways fit the segments of
the path, in document order: with none of them the path is the default, one stands for itself, and
several make a list. -/
theorem path_resolves_to_its_matches (tokens : PathTokens) (data : Tree) (path : String)
    (default : Tree) :
    (∀ value, RootChild data path value → tokens.resolve data path default = value) ∧
    ((∀ value, ¬RootChild data path value) → path = tokens.wildcard →
      tokens.resolve data path default = data) ∧
    ((∀ value, ¬RootChild data path value) → path ≠ tokens.wildcard →
      ∃ found, Matches tokens.wildcard (Text.split tokens.delimiter path) data found ∧
        (∀ other, Matches tokens.wildcard (Text.split tokens.delimiter path) data other →
          other = found) ∧
        (found = [] → tokens.resolve data path default = default) ∧
        (∀ way node, found = [(way, node)] → tokens.resolve data path default = node) ∧
        (2 ≤ found.length → tokens.resolve data path default = .list (found.map Prod.snd))) := by
  have hnone (h : ∀ value, ¬RootChild data path value) :
      PathTokens.exactChild? data path = none := by
    rw [Option.eq_none_iff_forall_ne_some]
    exact fun value hvalue => h value (exactChild?_eq_some_iff.1 hvalue)
  refine ⟨fun value h => ?_, fun h hpath => ?_, fun h hpath => ?_⟩
  · rw [PathTokens.resolve, exactChild?_eq_some_iff.2 h]
  · rw [PathTokens.resolve, hnone h]
    exact if_pos hpath
  · have hmatches := matches_matchingWays tokens (Text.split tokens.delimiter path) data
    refine ⟨_, hmatches, fun other hother => hother.unique hmatches, ?_⟩
    simp only [PathTokens.resolve, hnone h, if_neg hpath, ← map_matchingWays]
    generalize matchingWays tokens (Text.split tokens.delimiter path) data = found
    refine ⟨?_, ?_, ?_⟩
    · rintro rfl
      rfl
    · rintro way node rfl
      rfl
    · intro hlength
      match found, hlength with
      | first :: second :: rest, _ => rfl

def staff : Tree :=
  .object [("staff", .list [.object [("name", .text "Ada")], .object [("name", .null)],
    .object [("age", .bool true)]])]

/-- The names of the staff with the ways to them; the second name is null. -/
def staffNames : List (Way × Tree) :=
  [([(0, .name "staff"), (0, .index 0), (0, .name "name")], .text "Ada"),
    ([(0, .name "staff"), (1, .index 1), (0, .name "name")], .null)]

theorem staff_names_are_the_matches :
    (∀ value, ¬RootChild staff "staff.*.name" value) ∧
      Matches "*" (Text.split "." "staff.*.name") staff staffNames ∧
      PathTokens.usual.resolve staff "staff.*.name" (.text "none") = .list [.text "Ada", .null] := by
  have hroot : ∀ value, ¬RootChild staff "staff.*.name" value := by
    intro value h
    have hchild : PathTokens.exactChild? staff "staff.*.name" = some value :=
      exactChild?_eq_some_iff.2 h
    have hnone : PathTokens.exactChild? staff "staff.*.name" = none := by rfl
    rw [hnone] at hchild
    cases hchild
  have hsplit : Text.split "." "staff.*.name" = ["staff", "*", "name"] := by rfl
  have hnames : Matches "*" (Text.split "." "staff.*.name") staff staffNames := by
    have hways : matchingWays .usual ["staff", "*", "name"] staff = staffNames := by rfl
    rw [hsplit, ← hways]
    exact matches_matchingWays .usual _ staff
  obtain ⟨-, -, h⟩ :=
    path_resolves_to_its_matches .usual staff "staff.*.name" (.text "none")
  obtain ⟨found, -, hunique, -, -, hseveral⟩ := h hroot (by decide)
  obtain rfl : staffNames = found := hunique staffNames hnames
  exact ⟨hroot, hnames, hseveral (by decide)⟩

end RuleChain.Proofs
