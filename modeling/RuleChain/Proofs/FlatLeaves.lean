import RuleChain.Proofs.ExpandFlatten
import RuleChain.Proofs.WildcardMatches

/-!
# Leaves in a flat table

The leaves of a tree, each with the way that leads to it, make its flat table: one entry for each
leaf, in the order of the document, under the stem and the path of the way. Looking up that path
goes the way and ends at the leaf, as each of its segments names the child that the way goes to.
-/

namespace RuleChain.Proofs
open RuleChain.Tree

/-- The segment that names a child: its key, or the numeral of its index. -/
def segmentOf : ChildKey → String
  | .name key => key
  | .index i => toString i

/-- The segments that name the children on a way. -/
def segmentsOf (way : Way) : List String :=
  way.map fun step => segmentOf step.2

/-- All leaves below a value with the ways that lead to them: none is missing, and each comes once,
in the order of the document. A leaf is a scalar or an empty container. -/
structure LeavesBelow (data : Tree) (found : List (Way × Tree)) : Prop where
  complete : ∀ way leaf, (way, leaf) ∈ found ↔
    Leads data way leaf ∧ way ≠ [] ∧ leaf.hasChildren = false
  ordered : found.Pairwise fun m other => Before m.1 other.1

/-- All indices in the tree are words, as they are for lists that fit into memory. -/
def IndicesFit : Tree → Prop :=
  Everywhere fun node => ∀ items, node = .list items → items.length ≤ 0x10000000000000000

lemma indicesFit_iff (node : Tree) :
    IndicesFit node ↔ (∀ items, node = .list items → items.length ≤ 0x10000000000000000) ∧
      ∀ branch ∈ branches node, IndicesFit branch.2 :=
  everywhere_iff

section Ways

lemma branches_eq_map_steps (node : Tree) :
    branches node = (steps node).map fun s => (segmentOf s.1.2, s.2) := by
  have hchildren : branches node = node.children.map fun child => (segmentOf child.1, child.2) := by
    cases node with
    | object members => simp [branches, children, segmentOf, Function.comp_def]
    | list items => apply List.ext_getElem <;> simp [branches, children, segmentOf]
    | _ => rfl
  rw [hchildren, ← map_steps, List.map_map]
  rfl

lemma mem_branches_of_mem_steps {node : Tree} {s : (Nat × ChildKey) × Tree} (h : s ∈ steps node) :
    (segmentOf s.1.2, s.2) ∈ branches node := by
  rw [branches_eq_map_steps]
  exact List.mem_map_of_mem h

/-- The leaves below a value, in document order, each with the way that leads to it. -/
def leafWays (node : Tree) : List (Way × Tree) :=
  (steps node).attach.flatMap fun ⟨s, _⟩ =>
    if s.2.hasChildren then (leafWays s.2).map fun m => (s.1 :: m.1, m.2)
    else [([s.1], s.2)]
termination_by sizeOf node
decreasing_by exact sizeOf_branch_lt (mem_branches_of_mem_steps ‹_›)

/-- The leaves at and below a child. -/
def stepLeaves (s : (Nat × ChildKey) × Tree) : List (Way × Tree) :=
  if s.2.hasChildren then (leafWays s.2).map fun m => (s.1 :: m.1, m.2)
  else [([s.1], s.2)]

lemma leafWays_eq_flatMap (node : Tree) : leafWays node = (steps node).flatMap stepLeaves := by
  conv_rhs => rw [← List.attach_map_subtype_val (steps node), List.flatMap_map]
  rw [leafWays]
  rfl

/-- No way leads on from a leaf. -/
lemma leads_of_leaf {node last : Tree} {way : Way} (hleaf : node.hasChildren = false) :
    Leads node way last ↔ way = [] ∧ last = node := by
  cases way with
  | nil => simp [leads_nil_iff]
  | cons step way =>
    have hsteps : steps node = [] := by
      have hbranches := hasChildren_eq_false_iff.1 hleaf
      rwa [branches_eq_map_steps, List.map_eq_nil_iff] at hbranches
    simp [leads_cons_iff, hsteps]

lemma mem_stepLeaves_iff {s : (Nat × ChildKey) × Tree} {way : Way} {leaf : Tree}
    (ih : ∀ below, (below, leaf) ∈ leafWays s.2 ↔
      Leads s.2 below leaf ∧ below ≠ [] ∧ leaf.hasChildren = false) :
    (way, leaf) ∈ stepLeaves s ↔
      ∃ below, way = s.1 :: below ∧ Leads s.2 below leaf ∧ leaf.hasChildren = false := by
  unfold stepLeaves
  cases hchildren : s.2.hasChildren with
  | false =>
    simp only [Bool.false_eq_true, if_false, List.mem_singleton, Prod.mk.injEq,
      leads_of_leaf hchildren]
    constructor
    · rintro ⟨rfl, rfl⟩
      exact ⟨[], rfl, ⟨rfl, rfl⟩, hchildren⟩
    · rintro ⟨below, rfl, ⟨rfl, rfl⟩, -⟩
      exact ⟨rfl, rfl⟩
  | true =>
    simp only [if_true, List.mem_map, Prod.mk.injEq]
    constructor
    · rintro ⟨⟨below, last⟩, hmem, rfl, rfl⟩
      obtain ⟨hleads, -, hleaf⟩ := (ih below).1 hmem
      exact ⟨below, rfl, hleads, hleaf⟩
    · rintro ⟨below, rfl, hleads, hleaf⟩
      -- the child has children and is no leaf itself, so the way goes on below it
      have hbelow : below ≠ [] := by
        rintro rfl
        rw [leads_nil_iff.1 hleads, hchildren] at hleaf
        cases hleaf
      exact ⟨(below, leaf), (ih below).2 ⟨hleads, hbelow, hleaf⟩, rfl, rfl⟩

lemma mem_leafWays_iff {node leaf : Tree} {way : Way} :
    (way, leaf) ∈ leafWays node ↔ Leads node way leaf ∧ way ≠ [] ∧ leaf.hasChildren = false := by
  induction node using branch_induction generalizing way with
  | step node ih =>
    have hstep : ∀ s ∈ steps node, (way, leaf) ∈ stepLeaves s ↔
        ∃ below, way = s.1 :: below ∧ Leads s.2 below leaf ∧ leaf.hasChildren = false :=
      fun s hs => mem_stepLeaves_iff fun below => ih _ (mem_branches_of_mem_steps hs)
    rw [leafWays_eq_flatMap, List.mem_flatMap]
    constructor
    · rintro ⟨s, hs, hmem⟩
      obtain ⟨below, rfl, hleads, hleaf⟩ := (hstep s hs).1 hmem
      exact ⟨leads_cons_iff.2 ⟨s.2, hs, hleads⟩, List.cons_ne_nil _ _, hleaf⟩
    · rintro ⟨hleads, hway, hleaf⟩
      obtain ⟨step, below, rfl⟩ := List.exists_cons_of_ne_nil hway
      obtain ⟨child, hs, hbelow⟩ := leads_cons_iff.1 hleads
      exact ⟨(step, child), hs, (hstep _ hs).2 ⟨below, rfl, hbelow, hleaf⟩⟩

lemma exists_cons_of_mem_stepLeaves {s : (Nat × ChildKey) × Tree} {m : Way × Tree}
    (h : m ∈ stepLeaves s) : ∃ below, m.1 = s.1 :: below := by
  unfold stepLeaves at h
  split at h
  · obtain ⟨below, -, rfl⟩ := List.mem_map.1 h
    exact ⟨below.1, rfl⟩
  · obtain rfl := List.mem_singleton.1 h
    exact ⟨[], rfl⟩

lemma leafWays_pairwise (node : Tree) :
    (leafWays node).Pairwise fun m other => Before m.1 other.1 := by
  induction node using branch_induction with
  | step node ih =>
    rw [leafWays_eq_flatMap]
    apply pairwise_before_flatMap (steps_pairwise node)
    · intro s hs
      unfold stepLeaves
      split
      · rw [List.pairwise_map]
        exact (ih _ (mem_branches_of_mem_steps hs)).imp fun h => before_cons_of_before s.1 h
      · exact List.pairwise_singleton _ _
    · exact fun s m => exists_cons_of_mem_stepLeaves

theorem leavesBelow_leafWays (data : Tree) : LeavesBelow data (leafWays data) where
  complete _ _ := mem_leafWays_iff
  ordered := leafWays_pairwise data

/-- The path to a leaf has the segments of the way to it. -/
lemma leafPaths_eq_map_leafWays (node : Tree) :
    leafPaths node = (leafWays node).map fun m => (segmentsOf m.1, m.2) := by
  induction node using branch_induction with
  | step node ih =>
    rw [leafPaths_eq_flatMap, leafWays_eq_flatMap, branches_eq_map_steps, List.flatMap_map,
      List.map_flatMap]
    refine List.flatMap_congr fun s hs => ?_
    unfold branchLeaves stepLeaves
    split
    · rw [ih _ (mem_branches_of_mem_steps hs), List.map_map, List.map_map]
      rfl
    · rfl

end Ways

section Lookup

/-- In a table with distinct keys every entry is found under its key. -/
lemma get?_of_mem {α : Type} {t : List (String × α)} (hkeys : (Table.keys t).Nodup)
    {entry : String × α} (h : entry ∈ t) : Table.get? t entry.1 = some entry.2 := by
  induction t with
  | nil => cases h
  | cons first rest ih =>
    obtain ⟨hfirst, hrest⟩ := List.nodup_cons.1 hkeys
    obtain rfl | h := List.mem_cons.1 h
    · simp [Table.get?]
    · have hne : first.1 ≠ entry.1 := by
        intro heq
        exact hfirst (List.mem_map.2 ⟨entry, h, heq.symm⟩)
      rw [Table.get?, if_neg hne, ih hrest h]

/-- A value has under the segment of a branch the child of that branch. -/
lemma child?_of_mem_branches {node : Tree} {branch : String × Tree}
    (hkeys : (Table.keys (branches node)).Nodup)
    (hfit : ∀ items, node = .list items → items.length ≤ 0x10000000000000000)
    (h : branch ∈ branches node) : node.child? branch.1 = some branch.2 := by
  cases node with
  | object members => exact get?_of_mem hkeys h
  | list items =>
    obtain ⟨i, hi, rfl⟩ := List.mem_mapIdx.1 h
    have hword : i < 0x10000000000000000 := Nat.lt_of_lt_of_le hi (hfit items rfl)
    have hread : Text.readCount? (toString i).toList = some i := by
      rw [Text.readCount?_of_isNumeral (Text.isNumeral_toString i), Text.digitsValue_toString,
        if_pos hword]
    rw [child?, hread]
    exact List.getElem?_eq_getElem hi
  | _ => simp [branches] at h

/-- Looking up the segments of a way leads where the way leads. -/
theorem get?_segmentsOf {node last : Tree} {way : Way} (hkeys : DistinctKeys node)
    (hfit : IndicesFit node) (h : Leads node way last) :
    node.get? (segmentsOf way) = some last := by
  induction way generalizing node with
  | nil =>
    rw [leads_nil_iff.1 h]
    rfl
  | cons step way ih =>
    obtain ⟨child, hs, hrest⟩ := leads_cons_iff.1 h
    obtain ⟨hhere, hbelow⟩ := everywhere_iff.1 hkeys
    obtain ⟨hfitHere, hfitBelow⟩ := (indicesFit_iff node).1 hfit
    have hbranch := mem_branches_of_mem_steps hs
    have hchild : node.child? (segmentOf step.2) = some child :=
      child?_of_mem_branches hhere hfitHere hbranch
    rw [segmentsOf, List.map_cons, get?, hchild, Option.bind_some]
    exact ih (hbelow _ hbranch) (hfitBelow _ hbranch) hrest

end Lookup

/-- A flat table of a tree, in which keys are distinct and segments share no character with the
delimiter, has an entry for each leaf below the root, in the order of the document. Behind the stem
its key is a path at which the leaf is looked up, and no two leaves have the same key. -/
theorem flat_table_lists_leaves_at_their_paths {delimiter : String} (hdelimiter : delimiter ≠ "")
    (stem : String) {d : Tree} (hkeys : DistinctKeys d) (hapart : SegmentsApart delimiter d)
    (hfit : IndicesFit d) :
    ∃ found, LeavesBelow d found ∧
      Path.flatten delimiter d stem =
        found.map (fun m => (stem ++ Text.join delimiter (segmentsOf m.1), m.2)) ∧
      (∀ m ∈ found,
        Path.lookup? delimiter d (Text.join delimiter (segmentsOf m.1)) = some m.2) ∧
      (found.map fun m => stem ++ Text.join delimiter (segmentsOf m.1)).Nodup ∧
      ∀ entry ∈ Path.flatten delimiter d stem, entry.2.hasChildren = false := by
  have hpaths := leafPaths_eq_map_leafWays d
  have hjoined := nodup_join_leafPaths hdelimiter hkeys hapart
  have hflat : Path.flatten delimiter d stem = (leafWays d).map fun m =>
      (stem ++ Text.join delimiter (segmentsOf m.1), m.2) := by
    rw [flatten_eq_map_leafPaths delimiter stem hjoined, hpaths, List.map_map]
    rfl
  refine ⟨leafWays d, leavesBelow_leafWays d, hflat, ?_, ?_, ?_⟩
  · intro m hm
    have hleaf : (segmentsOf m.1, m.2) ∈ leafPaths d := by
      rw [hpaths]
      exact List.mem_map_of_mem hm
    rw [Path.lookup?, segments_join_of_mem_leafPaths hdelimiter hapart hleaf]
    exact get?_segmentsOf hkeys hfit (mem_leafWays_iff.1 hm).1
  · rw [hpaths, List.map_map] at hjoined
    have hstem := hjoined.map (f := (stem ++ ·)) fun path other h => by simpa using h
    rwa [List.map_map] at hstem
  · rw [hflat]
    exact List.forall_mem_map.2 fun m hm => (mem_leafWays_iff.1 hm).2.2

lemma shelf_indicesFit : IndicesFit shelf := by
  simp [shelf, indicesFit_iff (.object _), indicesFit_iff (.list _), indicesFit_iff .null, branches]

theorem shelf_lists_three_leaves :
    DistinctKeys shelf ∧ SegmentsApart "->" shelf ∧ IndicesFit shelf ∧
      ∃ found, LeavesBelow shelf found ∧
        found.map (fun m => ("@" ++ Text.join "->" (segmentsOf m.1), m.2)) =
          [("@->wine->0", .null), ("@->wine->1->red", .list []), ("@ale", .object [])] ∧
        ∀ m ∈ found,
          Path.lookup? "->" shelf (Text.join "->" (segmentsOf m.1)) = some m.2 := by
  refine ⟨shelf_distinctKeys, shelf_segmentsApart, shelf_indicesFit, ?_⟩
  obtain ⟨found, hfound, hflat, hlookup, -, -⟩ :=
    flat_table_lists_leaves_at_their_paths (by decide) "@" shelf_distinctKeys
      shelf_segmentsApart shelf_indicesFit
  refine ⟨found, hfound, ?_, hlookup⟩
  rw [← hflat]
  rfl

end RuleChain.Proofs
