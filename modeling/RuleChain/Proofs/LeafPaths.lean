import RuleChain.Path.Flat
import RuleChain.Proofs.Branches

/-!
# Leaves and their paths

The leaves below a tree, each with the list of segments that leads to it. A flat table has these
leaves in this order, the segments joined by the delimiter. Different leaves have different paths,
and where no segment shares a character with the delimiter their joined texts differ too.
-/

namespace RuleChain.Proofs
open RuleChain.Tree

/-- The leaf as it is reached from the parent, by way of a segment. -/
def under (segment : String) (leaf : List String × Tree) : List String × Tree :=
  (segment :: leaf.1, leaf.2)

/-- The leaves below a value, in document order, each with the segments that lead to it. A child
without children is a leaf: a scalar or an empty container. -/
def leafPaths (node : Tree) : List (List String × Tree) :=
  (branches node).attach.flatMap fun ⟨branch, _⟩ =>
    if branch.2.hasChildren then (leafPaths branch.2).map (under branch.1)
    else [([branch.1], branch.2)]
termination_by sizeOf node
decreasing_by exact sizeOf_branch_lt ‹_›

/-- The leaves at and below a branch. -/
def branchLeaves (branch : String × Tree) : List (List String × Tree) :=
  if branch.2.hasChildren then (leafPaths branch.2).map (under branch.1)
  else [([branch.1], branch.2)]

lemma leafPaths_eq_flatMap (node : Tree) :
    leafPaths node = (branches node).flatMap branchLeaves := by
  conv_rhs => rw [← List.attach_map_subtype_val (branches node), List.flatMap_map]
  rw [leafPaths]
  rfl

lemma branchLeaves_of_leaf {branch : String × Tree} (h : branch.2.hasChildren = false) :
    branchLeaves branch = [([branch.1], branch.2)] := by
  simp [branchLeaves, h]

lemma branchLeaves_of_hasChildren {branch : String × Tree} (h : branch.2.hasChildren = true) :
    branchLeaves branch = (leafPaths branch.2).map (under branch.1) := by
  simp [branchLeaves, h]

lemma leafPaths_of_leaf {node : Tree} (h : node.hasChildren = false) : leafPaths node = [] := by
  rw [leafPaths_eq_flatMap, hasChildren_eq_false_iff.1 h, List.flatMap_nil]

lemma path_of_mem_branchLeaves {branch : String × Tree} {leaf : List String × Tree}
    (h : leaf ∈ branchLeaves branch) :
    leaf = ([branch.1], branch.2) ∧ branch.2.hasChildren = false ∨
      branch.2.hasChildren = true ∧ ∃ below ∈ leafPaths branch.2, leaf = under branch.1 below := by
  cases hchildren : branch.2.hasChildren with
  | false =>
    rw [branchLeaves_of_leaf hchildren] at h
    exact .inl ⟨by simpa using h, rfl⟩
  | true =>
    rw [branchLeaves_of_hasChildren hchildren] at h
    obtain ⟨below, hbelow, rfl⟩ := List.mem_map.1 h
    exact .inr ⟨rfl, below, hbelow, rfl⟩

lemma head?_of_mem_branchLeaves {branch : String × Tree} {leaf : List String × Tree}
    (h : leaf ∈ branchLeaves branch) : leaf.1.head? = some branch.1 := by
  obtain ⟨rfl, -⟩ | ⟨-, below, -, rfl⟩ := path_of_mem_branchLeaves h <;> rfl

lemma path_ne_nil {node : Tree} {leaf : List String × Tree} (h : leaf ∈ leafPaths node) :
    leaf.1 ≠ [] := by
  rw [leafPaths_eq_flatMap] at h
  obtain ⟨branch, -, hleaf⟩ := List.mem_flatMap.1 h
  intro hnil
  have hhead := head?_of_mem_branchLeaves hleaf
  simp [hnil] at hhead

lemma leafPaths_ne_nil {node : Tree} (h : node.hasChildren = true) : leafPaths node ≠ [] := by
  induction node using branch_induction with
  | step node ih =>
    obtain ⟨branch, rest, hbranches⟩ := List.exists_cons_of_ne_nil (hasChildren_iff.1 h)
    rw [leafPaths_eq_flatMap, hbranches, List.flatMap_cons]
    refine List.append_ne_nil_of_left_ne_nil ?_ _
    cases hchildren : branch.2.hasChildren with
    | false => simp [branchLeaves_of_leaf hchildren]
    | true =>
      have hbelow : leafPaths branch.2 ≠ [] := ih branch (by simp [hbranches]) hchildren
      simpa [branchLeaves_of_hasChildren hchildren] using hbelow

section Flat

variable (delimiter : String)

lemma memberLeaves_eq_flatMap (stem : String) (members : List (String × Tree)) :
    memberLeaves delimiter stem members = members.flatMap fun member =>
      if member.2.hasChildren then member.2.leaves delimiter (stem ++ member.1 ++ delimiter)
      else [(stem ++ member.1, member.2)] := by
  induction members with
  | nil => rfl
  | cons member members ih => rw [memberLeaves, ih, List.flatMap_cons]

lemma itemLeaves_eq_flatMap (stem : String) (i : Nat) (items : List Tree) :
    itemLeaves delimiter stem i items =
      (items.mapIdx fun j item => (toString (i + j), item)).flatMap fun branch =>
        if branch.2.hasChildren then branch.2.leaves delimiter (stem ++ branch.1 ++ delimiter)
        else [(stem ++ branch.1, branch.2)] := by
  induction items generalizing i with
  | nil => rfl
  | cons item items ih =>
    rw [itemLeaves, ih, List.mapIdx_cons, List.flatMap_cons]
    simp [Nat.add_assoc, Nat.add_comm 1]

lemma leaves_eq_flatMap (stem : String) (node : Tree) :
    node.leaves delimiter stem = (branches node).flatMap fun branch =>
      if branch.2.hasChildren then branch.2.leaves delimiter (stem ++ branch.1 ++ delimiter)
      else [(stem ++ branch.1, branch.2)] := by
  cases node with
  | object members => exact memberLeaves_eq_flatMap delimiter stem members
  | list items => simpa [branches, leaves] using itemLeaves_eq_flatMap delimiter stem 0 items
  | _ => rfl

/-- A flat table lists the leaves under the stem and their joined paths. -/
theorem leaves_eq_map_leafPaths (stem : String) (node : Tree) :
    node.leaves delimiter stem =
      (leafPaths node).map fun leaf => (stem ++ Text.join delimiter leaf.1, leaf.2) := by
  induction node using branch_induction generalizing stem with
  | step node ih =>
    rw [leaves_eq_flatMap, leafPaths_eq_flatMap, List.map_flatMap]
    refine List.flatMap_congr fun branch hbranch => ?_
    cases hchildren : branch.2.hasChildren with
    | false => simp [branchLeaves_of_leaf hchildren, Text.join, Text.joinChars]
    | true =>
      rw [if_pos rfl, ih branch hbranch, branchLeaves_of_hasChildren hchildren, List.map_map]
      refine List.map_congr_left fun leaf hleaf => ?_
      simp [under, join_cons (path_ne_nil hleaf), String.append_assoc]

/-- Leaves whose joined paths differ are the entries of the flat table. -/
lemma flatten_eq_map_leafPaths (stem : String) {node : Tree}
    (h : ((leafPaths node).map fun leaf => Text.join delimiter leaf.1).Nodup) :
    Path.flatten delimiter node stem =
      (leafPaths node).map fun leaf => (stem ++ Text.join delimiter leaf.1, leaf.2) := by
  have hkeys : Table.keys (node.leaves delimiter stem) =
      ((leafPaths node).map fun leaf => Text.join delimiter leaf.1).map (stem ++ ·) := by
    simp [leaves_eq_map_leafPaths, Table.keys]
  have hnodup : (Table.keys (node.leaves delimiter stem)).Nodup := by
    rw [hkeys]
    exact h.map fun path other hpath => by simpa using hpath
  rw [Path.flatten, Table.ofEntries_of_nodup hnodup, leaves_eq_map_leafPaths]

end Flat

/-- Different leaves have different paths. -/
theorem nodup_leafPaths {node : Tree} (h : DistinctKeys node) :
    ((leafPaths node).map Prod.fst).Nodup := by
  induction h with
  | intro hkeys _ ih =>
    rw [leafPaths_eq_flatMap, List.map_flatMap, List.nodup_flatMap]
    constructor
    · intro branch hbranch
      cases hchildren : branch.2.hasChildren with
      | false => simp [branchLeaves_of_leaf hchildren]
      | true =>
        rw [branchLeaves_of_hasChildren hchildren, List.map_map]
        have hbelow := (ih branch hbranch).map (f := (branch.1 :: ·)) fun p q => by simp
        rwa [List.map_map] at hbelow
    · rw [Table.keys, List.Nodup, List.pairwise_map] at hkeys
      refine hkeys.imp fun {branch other} hne => ?_
      -- paths below different branches start with different segments
      intro path hpath hother
      obtain ⟨leaf, hleaf, rfl⟩ := List.mem_map.1 hpath
      obtain ⟨leaf', hleaf', heq⟩ := List.mem_map.1 hother
      have hhead := head?_of_mem_branchLeaves hleaf'
      rw [heq, head?_of_mem_branchLeaves hleaf] at hhead
      exact hne (Option.some.inj hhead)

/-- The segments below a tree, the indices of its lists included, share no character with a
delimiter. -/
def SegmentsApart (delimiter : String) : Tree → Prop :=
  Everywhere fun node => ∀ branch ∈ branches node, Apart delimiter branch.1

lemma segmentsApart_iff (delimiter : String) (node : Tree) :
    SegmentsApart delimiter node ↔
      ∀ branch ∈ branches node, Apart delimiter branch.1 ∧ SegmentsApart delimiter branch.2 := by
  rw [SegmentsApart, everywhere_iff, forall₂_and]

lemma apart_of_mem_path {delimiter : String} {node : Tree} (h : SegmentsApart delimiter node)
    {leaf : List String × Tree} (hleaf : leaf ∈ leafPaths node) :
    ∀ segment ∈ leaf.1, Apart delimiter segment := by
  induction h generalizing leaf with
  | intro hhere _ ih =>
    rw [leafPaths_eq_flatMap] at hleaf
    obtain ⟨branch, hbranch, hleaf⟩ := List.mem_flatMap.1 hleaf
    obtain ⟨rfl, -⟩ | ⟨-, below, hbelow, rfl⟩ := path_of_mem_branchLeaves hleaf
    · simpa using hhere branch hbranch
    · exact List.forall_mem_cons.2 ⟨hhere branch hbranch, ih branch hbranch hbelow⟩

end RuleChain.Proofs
