import RuleChain.Proofs.LeafPaths
import RuleChain.Proofs.WriteLens

/-!
# Expanding a flat table

A tree that is flattened comes back when its table is expanded, save that lists come back as objects
of their items under their indices, and that the root is an object. The leaves of one branch stand
together in the table: the first brings its segment in behind the ones before, and all others go
below what it made, so members keep their order.
-/

namespace RuleChain.Proofs
open RuleChain.Tree

/-- Puts some values at their places, in order, until one cannot be put. -/
def putAll : List (List String × Tree) → Tree → Except WriteError Tree
  | [], d => .ok d
  | leaf :: leaves, d =>
    match modifyParent (assignChild leaf.2) leaf.1 d with
    | (.error e, _) => .error e
    | (.ok (), d) => putAll leaves d

lemma setAll_eq_putAll (delimiter : String) (flat : List (String × Tree)) (d : Tree) :
    Path.setAll delimiter flat d =
      putAll (flat.map fun entry => (Path.segments delimiter entry.1, entry.2)) d := by
  induction flat generalizing d with
  | nil => rfl
  | cons entry flat ih =>
    obtain ⟨path, value⟩ := entry
    rw [List.map_cons, putAll, Path.setAll, Path.set]
    rcases modifyParent (assignChild value) (Path.segments delimiter path) d with
      ⟨e | ⟨⟨⟩⟩, next⟩
    · rfl
    · exact ih next

lemma putAll_cons_eq_ok {leaf : List String × Tree} {leaves : List (List String × Tree)}
    {d d' : Tree} :
    putAll (leaf :: leaves) d = .ok d' ↔
      ∃ next, modifyParent (assignChild leaf.2) leaf.1 d = (.ok (), next) ∧
        putAll leaves next = .ok d' := by
  rw [putAll]
  rcases modifyParent (assignChild leaf.2) leaf.1 d with ⟨e | ⟨⟨⟩⟩, next⟩ <;> simp

lemma putAll_append {leaves leaves' : List (List String × Tree)} {d d' : Tree}
    (h : putAll leaves d = .ok d') : putAll (leaves ++ leaves') d = putAll leaves' d' := by
  induction leaves generalizing d with
  | nil =>
    obtain rfl : d = d' := by simpa [putAll] using h
    rfl
  | cons leaf leaves ih =>
    obtain ⟨next, hnext, hrest⟩ := putAll_cons_eq_ok.1 h
    rw [List.cons_append, putAll, hnext]
    exact ih hrest

/-- The node in which a write goes on below a segment of an object. -/
def openedMember (members : List (String × Tree)) (segment : String) : Tree :=
  (childOrNull (.object members) segment).opened

lemma openedMember_of_get?_eq_none {members : List (String × Tree)} {segment : String}
    (h : Table.get? members segment = none) : openedMember members segment = empty := by
  rw [openedMember, childOrNull, child?, h]
  rfl

lemma openedMember_of_get?_eq_some {members : List (String × Tree)} {segment : String}
    {child : Tree} (h : Table.get? members segment = some child) :
    openedMember members segment = child.opened := by
  rw [openedMember, childOrNull, child?, h, Option.getD_some]

lemma put_single_object (members : List (String × Tree)) (segment : String) (value : Tree) :
    modifyParent (assignChild value) [segment] (.object members) =
      (.ok (), .object (Table.insert members segment value)) := rfl

lemma put_under_object {members : List (String × Tree)} {segment : String} {path : List String}
    {value child : Tree} (hpath : path ≠ [])
    (h : modifyParent (assignChild value) path (openedMember members segment) = (.ok (), child)) :
    modifyParent (assignChild value) (segment :: path) (.object members) =
      (.ok (), .object (Table.insert members segment child)) := by
  cases path with
  | nil => exact absurd rfl hpath
  | cons next rest =>
    rw [openedMember] at h
    rw [modifyParent_cons, modifyChild_of_takes (takes_object members segment), h]
    rfl

/-- Leaves that all go below one segment of an object change its member there as they would change
it by itself. -/
lemma putAll_under {leaves : List (List String × Tree)} {members : List (String × Tree)}
    {segment : String} {child : Tree} (hleaves : leaves ≠ [])
    (hpaths : ∀ leaf ∈ leaves, leaf.1 ≠ [])
    (h : putAll leaves (openedMember members segment) = .ok child) :
    putAll (leaves.map (under segment)) (.object members) =
      .ok (.object (Table.insert members segment child)) := by
  induction leaves generalizing members with
  | nil => exact absurd rfl hleaves
  | cons leaf leaves ih =>
    obtain ⟨next, hnext, hrest⟩ := putAll_cons_eq_ok.1 h
    have hpath : leaf.1 ≠ [] := hpaths leaf (by simp)
    rw [List.map_cons, putAll_cons_eq_ok]
    refine ⟨_, put_under_object hpath hnext, ?_⟩
    by_cases hlast : leaves = []
    · subst hlast
      obtain rfl : next = child := by simpa [putAll] using hrest
      rfl
    · have hmember : Table.get? (Table.insert members segment next) segment = some next := by
        rw [Table.get?_insert, if_pos rfl]
      have hopened : openedMember (Table.insert members segment next) segment = next := by
        rw [openedMember_of_get?_eq_some hmember]
        exact opened_of_isContainer (isContainer_of_put hpath hnext)
      rw [ih hlast (fun leaf hleaf => hpaths leaf (by simp [hleaf])) (by rwa [hopened]),
        Table.insert_insert]

/-- The value with each list that holds something as the object of its items under their indices. -/
def listsAsObjects (node : Tree) : Tree :=
  if node.hasChildren then
    .object ((branches node).attach.map fun ⟨branch, _⟩ => (branch.1, listsAsObjects branch.2))
  else node
termination_by sizeOf node
decreasing_by exact sizeOf_branch_lt ‹_›

/-- The value with lists as objects, and an empty object in the place of one without children. -/
def rootAsObject (node : Tree) : Tree :=
  if node.hasChildren then listsAsObjects node else empty

lemma listsAsObjects_of_leaf {node : Tree} (h : node.hasChildren = false) :
    listsAsObjects node = node := by
  rw [listsAsObjects, h]
  rfl

lemma listsAsObjects_of_hasChildren {node : Tree} (h : node.hasChildren = true) :
    listsAsObjects node =
      .object ((branches node).map fun branch => (branch.1, listsAsObjects branch.2)) := by
  conv_rhs => rw [← List.attach_map_subtype_val (branches node), List.map_map]
  rw [listsAsObjects, if_pos h]
  rfl

lemma rootAsObject_eq (node : Tree) :
    rootAsObject node =
      .object ((branches node).map fun branch => (branch.1, listsAsObjects branch.2)) := by
  cases h : node.hasChildren with
  | false =>
    rw [rootAsObject, h, hasChildren_eq_false_iff.1 h]
    rfl
  | true => rw [rootAsObject, if_pos h, listsAsObjects_of_hasChildren h]

lemma putAll_branchLeaves {members : List (String × Tree)} {branch : String × Tree}
    (hnew : branch.1 ∉ Table.keys members)
    (hbelow : putAll (leafPaths branch.2) empty = .ok (rootAsObject branch.2)) :
    putAll (branchLeaves branch) (.object members) =
      .ok (.object (members ++ [(branch.1, listsAsObjects branch.2)])) := by
  rw [← Table.insert_of_not_mem hnew]
  cases hchildren : branch.2.hasChildren with
  | false =>
    rw [branchLeaves_of_leaf hchildren, listsAsObjects_of_leaf hchildren]
    rfl
  | true =>
    have hopened : openedMember members branch.1 = empty :=
      openedMember_of_get?_eq_none (Table.get?_eq_none_iff.2 hnew)
    rw [branchLeaves_of_hasChildren hchildren]
    rw [rootAsObject, if_pos hchildren, ← hopened] at hbelow
    exact putAll_under (leafPaths_ne_nil hchildren) (fun leaf => path_ne_nil) hbelow

/-- Branches with new and distinct segments come behind the members that are there, in order. -/
lemma putAll_flatMap_branchLeaves {members rest : List (String × Tree)}
    (hkeys : (Table.keys (members ++ rest)).Nodup)
    (hbelow : ∀ branch ∈ rest, putAll (leafPaths branch.2) empty = .ok (rootAsObject branch.2)) :
    putAll (rest.flatMap branchLeaves) (.object members) =
      .ok (.object (members ++ rest.map fun branch => (branch.1, listsAsObjects branch.2))) := by
  induction rest generalizing members with
  | nil => simp [putAll]
  | cons branch rest ih =>
    have hnew : branch.1 ∉ Table.keys members := by
      simp only [Table.keys, List.map_append, List.map_cons, List.nodup_append] at hkeys
      exact fun hmem => hkeys.2.2 _ hmem _ (by simp) rfl
    rw [List.flatMap_cons, putAll_append (putAll_branchLeaves hnew (hbelow branch (by simp)))]
    rw [ih (by simpa [Table.keys] using hkeys) fun other hother => hbelow other (by simp [hother])]
    simp

/-- The leaves of a tree, put in order into an empty object, make the tree with lists as objects. -/
theorem putAll_leafPaths {node : Tree} (h : DistinctKeys node) :
    putAll (leafPaths node) empty = .ok (rootAsObject node) := by
  induction h with
  | intro hkeys _ ih =>
    rw [leafPaths_eq_flatMap, rootAsObject_eq]
    exact putAll_flatMap_branchLeaves hkeys ih

/-- No list of the tree holds anything. -/
def ListsEmpty : Tree → Prop :=
  Everywhere fun node => ∀ items, node = .list items → items = []

lemma listsAsObjects_of_listsEmpty {node : Tree} (h : ListsEmpty node) :
    listsAsObjects node = node := by
  induction h with
  | @intro node hlist _ ih =>
    cases hchildren : node.hasChildren with
    | false => exact listsAsObjects_of_leaf hchildren
    | true =>
      rw [listsAsObjects_of_hasChildren hchildren,
        List.map_congr_left fun branch hbranch => by rw [ih branch hbranch]]
      cases node with
      | object members => simp [branches]
      | list items => simp [hlist items rfl, hasChildren] at hchildren
      | _ => cases hchildren

lemma segments_join {delimiter : String} {path : List String} (hdelimiter : delimiter ≠ "")
    (hpath : path ≠ []) (hapart : ∀ segment ∈ path, Apart delimiter segment) :
    Path.segments delimiter (Text.join delimiter path) = path := by
  rw [Path.segments, if_neg hdelimiter, split_join hdelimiter hpath hapart]

section Apart

variable {delimiter : String} (hdelimiter : delimiter ≠ "") {node : Tree}

include hdelimiter

lemma segments_join_of_mem_leafPaths (hapart : SegmentsApart delimiter node)
    {leaf : List String × Tree} (hleaf : leaf ∈ leafPaths node) :
    Path.segments delimiter (Text.join delimiter leaf.1) = leaf.1 :=
  segments_join hdelimiter (path_ne_nil hleaf) (apart_of_mem_path hapart hleaf)

/-- Different leaves have different joined paths, as splitting these gives back the segments. -/
lemma nodup_join_leafPaths (hkeys : DistinctKeys node) (hapart : SegmentsApart delimiter node) :
    ((leafPaths node).map fun leaf => Text.join delimiter leaf.1).Nodup := by
  have hpaths : ((leafPaths node).map fun leaf => Text.join delimiter leaf.1).map
      (Path.segments delimiter) = (leafPaths node).map Prod.fst := by
    rw [List.map_map]
    exact List.map_congr_left fun leaf => segments_join_of_mem_leafPaths hdelimiter hapart
  exact List.Nodup.of_map _ (hpaths ▸ nodup_leafPaths hkeys)

/-- Splitting a joined path at the delimiter undoes the joining for all leaves of a tree whose
segments keep clear of it, so the flat table has one entry for each leaf. -/
lemma flatten_segments (hkeys : DistinctKeys node) (hapart : SegmentsApart delimiter node) :
    (Path.flatten delimiter node "").map (fun entry =>
      (Path.segments delimiter entry.1, entry.2)) = leafPaths node := by
  rw [flatten_eq_map_leafPaths delimiter "" (nodup_join_leafPaths hdelimiter hkeys hapart),
    List.map_map]
  conv_rhs => rw [← List.map_id (leafPaths node)]
  refine List.map_congr_left fun leaf hleaf => ?_
  simp [segments_join_of_mem_leafPaths hdelimiter hapart hleaf]

end Apart

/-- A flat table expands to the tree that it was made of, in which keys are distinct and segments
share no character with the delimiter: lists that hold something have become objects of their items,
the root has become an object, and the order of members is kept. An object without such lists comes
back as it was. -/
theorem expand_undoes_flatten {delimiter : String} (hdelimiter : delimiter ≠ "") {d : Tree}
    (hkeys : DistinctKeys d) (hapart : SegmentsApart delimiter d) :
    Path.expand delimiter (Path.flatten delimiter d "") = .ok (rootAsObject d) ∧
      ∀ members, d = .object members → ListsEmpty d →
        Path.expand delimiter (Path.flatten delimiter d "") = .ok d := by
  have hexpand : Path.expand delimiter (Path.flatten delimiter d "") = .ok (rootAsObject d) := by
    rw [Path.expand, setAll_eq_putAll, flatten_segments hdelimiter hkeys hapart,
      putAll_leafPaths hkeys]
  refine ⟨hexpand, ?_⟩
  rintro members rfl hlists
  rw [hexpand]
  cases hchildren : (Tree.object members).hasChildren with
  | false =>
    obtain rfl : members = [] := hasChildren_eq_false_iff.1 hchildren
    rfl
  | true => rw [rootAsObject, if_pos hchildren, listsAsObjects_of_listsEmpty hlists]

def shelf : Tree :=
  .object [("", .object [("wine", .list [.null, .object [("red", .list [])]])]),
    ("ale", .object [])]

def numberedShelf : Tree :=
  .object [("", .object [("wine", .object [("0", .null), ("1", .object [("red", .list [])])])]),
    ("ale", .object [])]

lemma shelf_distinctKeys : DistinctKeys shelf := by
  have hnull : DistinctKeys .null := distinctKeys_of_leaf rfl
  simp [shelf, distinctKeys_object_iff, distinctKeys_list_iff, hnull, Table.keys]

lemma shelf_segmentsApart : SegmentsApart "->" shelf := by
  have hempty : Apart "->" "" := by decide
  have hale : Apart "->" "ale" := by decide
  have hwine : Apart "->" "wine" := by decide
  have hred : Apart "->" "red" := by decide
  have hzero : Apart "->" (Nat.repr 0) := by decide
  have hone : Apart "->" (Nat.repr 1) := by decide
  simp [shelf, segmentsApart_iff _ (.object _), segmentsApart_iff _ (.list _),
    segmentsApart_iff _ .null, branches, hempty, hale, hwine, hred, hzero, hone]

theorem shelf_expands_with_numbered_items :
    DistinctKeys shelf ∧ SegmentsApart "->" shelf ∧
      Path.expand "->" (Path.flatten "->" shelf "") = .ok numberedShelf := by
  refine ⟨shelf_distinctKeys, shelf_segmentsApart, ?_⟩
  rw [(expand_undoes_flatten (by decide) shelf_distinctKeys shelf_segmentsApart).1]
  have hnull : listsAsObjects .null = .null := listsAsObjects_of_leaf rfl
  have hindices : Nat.repr 0 = "0" ∧ Nat.repr 1 = "1" := by decide
  simp [rootAsObject, shelf, numberedShelf, listsAsObjects_of_hasChildren, listsAsObjects_of_leaf,
    hnull, branches, hasChildren, hindices]

end RuleChain.Proofs
