import RuleChain.Proofs.ExpandFlatten

/-!
# Flattening an expanded table

A flat table comes back when it is expanded and flattened, its entries perhaps in another order,
where its values are leaves and no key leads below another key. The tree that is built has, after
each step, exactly the values that were put as its leaves: a new value never meets one of them on
its way, and so passes only objects and ends where nothing is.
-/

namespace RuleChain.Proofs
open RuleChain.Tree

/-- Neither path leads to or through the place of the other. -/
def Incomparable (p q : List String) : Prop :=
  ¬p <+: q ∧ ¬q <+: p

lemma incomparable_cons_iff {segment : String} {p q : List String} :
    Incomparable (segment :: p) (segment :: q) ↔ Incomparable p q := by
  simp [Incomparable]

lemma listsEmpty_of_leaf {node : Tree} (h : node.hasChildren = false) : ListsEmpty node := by
  refine everywhere_of_leaf h ?_
  rintro items rfl
  simpa [hasChildren] using h

lemma listsEmpty_insert {members : List (String × Tree)} (h : ListsEmpty (.object members))
    {child : Tree} (hchild : ListsEmpty child) (segment : String) :
    ListsEmpty (.object (Table.insert members segment child)) := by
  change ListsEmpty (withChild (.object members) segment child)
  exact everywhere_withChild (by simp [withChild, opened]) h hchild

lemma object_of_listsEmpty {node : Tree} (h : ListsEmpty node)
    (hchildren : node.hasChildren = true) : ∃ members, node = .object members := by
  cases node with
  | object members => exact ⟨members, rfl⟩
  | list items =>
    obtain ⟨hempty, -⟩ := everywhere_iff.1 h
    simp [hempty items rfl, hasChildren] at hchildren
  | _ => cases hchildren

/-- The leaves at and below the member of an object under a segment, if there is one. -/
def leavesUnder (members : List (String × Tree)) (segment : String) : List (List String × Tree) :=
  ((Table.get? members segment).map fun child => branchLeaves (segment, child)).getD []

/-- Another member under a segment changes the leaves under that segment only. -/
lemma leafPaths_insert_perm (members : List (String × Tree)) (segment : String) :
    ∃ others, (leafPaths (.object members)).Perm (leavesUnder members segment ++ others) ∧
      ∀ child, (leafPaths (.object (Table.insert members segment child))).Perm
        (branchLeaves (segment, child) ++ others) := by
  have hobject : ∀ members, leafPaths (.object members) = members.flatMap branchLeaves :=
    fun members => leafPaths_eq_flatMap (.object members)
  cases hget : Table.get? members segment with
  | none =>
    refine ⟨leafPaths (.object members), by simp [leavesUnder, hget], fun child => ?_⟩
    rw [Table.insert_of_not_mem (Table.get?_eq_none_iff.1 hget), hobject, hobject,
      List.flatMap_append, List.flatMap_singleton]
    exact List.perm_append_comm
  | some old =>
    obtain ⟨before, after, rfl, hinsert⟩ := Table.exists_place_of_get? hget
    have hplace : ∀ child, (leafPaths (.object (before ++ (segment, child) :: after))).Perm
        (branchLeaves (segment, child) ++ (before ++ after).flatMap branchLeaves) := by
      intro child
      rw [hobject, List.flatMap_append, List.flatMap_cons, List.flatMap_append]
      exact List.perm_append_comm_assoc _ _ _
    refine ⟨(before ++ after).flatMap branchLeaves, ?_, fun child => ?_⟩
    · simpa [leavesUnder, hget] using hplace old
    · rw [hinsert]
      exact hplace child

/-- A path that starts with a segment and passes no leaf goes on in an object, whose leaves are all
the leaves under the segment. -/
lemma openedMember_of_no_leaf {members : List (String × Tree)} {segment : String}
    {rest : List String} (hlists : ListsEmpty (.object members))
    (hfree : ∀ leaf ∈ leavesUnder members segment, ¬leaf.1 <+: segment :: rest) :
    ∃ below, openedMember members segment = .object below ∧ ListsEmpty (.object below) ∧
      leavesUnder members segment = (leafPaths (.object below)).map (under segment) := by
  cases hget : Table.get? members segment with
  | none =>
    refine ⟨[], openedMember_of_get?_eq_none hget, listsEmpty_of_leaf rfl, ?_⟩
    rw [leafPaths_of_leaf rfl]
    simp [leavesUnder, hget]
  | some child =>
    rw [leavesUnder, hget, Option.map_some, Option.getD_some] at hfree ⊢
    cases hchildren : child.hasChildren with
    | false =>
      rw [branchLeaves_of_leaf hchildren] at hfree
      exact absurd (by simp) (hfree ([segment], child) (by simp))
    | true =>
      have hchild : ListsEmpty child := everywhere_of_child? hlists hget
      obtain ⟨below, rfl⟩ := object_of_listsEmpty hchild hchildren
      exact ⟨below, openedMember_of_get?_eq_some hget, hchild,
        branchLeaves_of_hasChildren hchildren⟩

/-- One more leaf below a branch is one more leaf of the branch. -/
lemma branchLeaves_perm {segment : String} {path : List String} {value child : Tree}
    {leaves : List (List String × Tree)} (h : (leafPaths child).Perm ((path, value) :: leaves)) :
    (branchLeaves (segment, child)).Perm
      ((segment :: path, value) :: leaves.map (under segment)) := by
  cases hchildren : child.hasChildren with
  | false =>
    rw [leafPaths_of_leaf hchildren] at h
    exact absurd h.nil_eq (by simp)
  | true =>
    rw [branchLeaves_of_hasChildren hchildren]
    exact h.map (under segment)

/-- A leaf put at a path that is incomparable to those of all leaves is one more leaf. -/
theorem put_leaf_perm {members : List (String × Tree)} {value : Tree} {path : List String}
    (hlists : ListsEmpty (.object members)) (hvalue : value.hasChildren = false) (hpath : path ≠ [])
    (hfree : ∀ leaf ∈ leafPaths (.object members), Incomparable leaf.1 path) :
    ∃ members', modifyParent (assignChild value) path (.object members) =
        (.ok (), .object members') ∧
      ListsEmpty (.object members') ∧
      (leafPaths (.object members')).Perm ((path, value) :: leafPaths (.object members)) := by
  induction path generalizing members with
  | nil => exact absurd rfl hpath
  | cons segment rest ih =>
    obtain ⟨others, hbefore, hafter⟩ := leafPaths_insert_perm members segment
    have hunder : ∀ leaf ∈ leavesUnder members segment, Incomparable leaf.1 (segment :: rest) :=
      fun leaf hleaf => hfree leaf (hbefore.mem_iff.2 (by simp [hleaf]))
    obtain ⟨below, hopened, hbelow, hleaves⟩ :=
      openedMember_of_no_leaf hlists fun leaf hleaf => (hunder leaf hleaf).1
    have hrestFree : ∀ leaf ∈ leafPaths (.object below), Incomparable leaf.1 rest := by
      intro leaf hleaf
      have hmem : under segment leaf ∈ leavesUnder members segment := by
        rw [hleaves]
        exact List.mem_map_of_mem hleaf
      exact incomparable_cons_iff.1 (hunder _ hmem)
    -- whatever comes under the segment, the leaves elsewhere are the same
    have hresult : ∀ child, (branchLeaves (segment, child)).Perm
        ((segment :: rest, value) :: leavesUnder members segment) →
        (leafPaths (.object (Table.insert members segment child))).Perm
          ((segment :: rest, value) :: leafPaths (.object members)) := fun child hchild =>
      (hafter child).trans ((hchild.append_right others).trans (hbefore.symm.cons _))
    cases rest with
    | nil =>
      have hnone : leafPaths (.object below) = [] :=
        List.eq_nil_iff_forall_not_mem.2 fun leaf hleaf => (hrestFree leaf hleaf).2 List.nil_prefix
      refine ⟨_, put_single_object members segment value,
        listsEmpty_insert hlists (listsEmpty_of_leaf hvalue) segment, hresult value ?_⟩
      rw [hleaves, hnone, branchLeaves_of_leaf hvalue]
      rfl
    | cons next rest =>
      obtain ⟨below', hput, hlists', hperm⟩ := ih hbelow (by simp) hrestFree
      rw [← hopened] at hput
      refine ⟨_, put_under_object (by simp) hput, listsEmpty_insert hlists hlists' segment,
        hresult _ ?_⟩
      rw [hleaves]
      exact branchLeaves_perm hperm

/-- Leaves at paths of which none leads to or through another are, once put in any order, exactly
the leaves of the tree. -/
theorem putAll_perm {leaves : List (List String × Tree)} {members : List (String × Tree)}
    (hlists : ListsEmpty (.object members)) (hleaves : ∀ leaf ∈ leaves, leaf.2.hasChildren = false)
    (hpaths : ∀ leaf ∈ leaves, leaf.1 ≠ [])
    (hfree : (leaves ++ leafPaths (.object members)).Pairwise fun a b => Incomparable a.1 b.1) :
    ∃ members', putAll leaves (.object members) = .ok (.object members') ∧
      (leafPaths (.object members')).Perm (leaves ++ leafPaths (.object members)) := by
  induction leaves generalizing members with
  | nil => exact ⟨members, rfl, .rfl⟩
  | cons leaf leaves ih =>
    obtain ⟨hfirst, -⟩ := List.pairwise_cons.1 hfree
    have hsymm : ∀ {a b : List String × Tree}, Incomparable a.1 b.1 → Incomparable b.1 a.1 :=
      And.symm
    obtain ⟨next, hput, hlists', hperm⟩ := put_leaf_perm hlists (hleaves leaf (by simp))
      (hpaths leaf (by simp)) fun other hother => hsymm (hfirst other (by simp [hother]))
    have hmoved : (leaves ++ leafPaths (.object next)).Perm
        (leaf :: (leaves ++ leafPaths (.object members))) :=
      (hperm.append_left leaves).trans List.perm_middle
    obtain ⟨members', hputs, hresult⟩ := ih hlists' (fun other h => hleaves other (by simp [h]))
      (fun other h => hpaths other (by simp [h])) ((hmoved.pairwise_iff hsymm).2 hfree)
    exact ⟨members', putAll_cons_eq_ok.2 ⟨_, hput, hputs⟩, hresult.trans hmoved⟩

section Table

variable {delimiter : String} {flat : Table Tree}

lemma join_segments (delimiter path : String) :
    Text.join delimiter (Path.segments delimiter path) = path := by
  by_cases hdelimiter : delimiter = ""
  · simp [Path.segments, hdelimiter, Text.join, Text.joinChars]
  · rw [Path.segments, if_neg hdelimiter, join_split hdelimiter]

/-- Different keys have different segments, so that keys of which none leads below another are
incomparable. -/
lemma pairwise_incomparable (hkeys : (Table.keys flat).Nodup)
    (hfree : ∀ key ∈ Table.keys flat, ∀ other ∈ Table.keys flat,
      Path.segments delimiter key <+: Path.segments delimiter other →
        Path.segments delimiter key = Path.segments delimiter other) :
    (Table.keys flat).Pairwise fun key other =>
      Incomparable (Path.segments delimiter key) (Path.segments delimiter other) := by
  have hstart : ∀ {key other}, key ∈ Table.keys flat → other ∈ Table.keys flat → key ≠ other →
      ¬Path.segments delimiter key <+: Path.segments delimiter other := by
    intro key other hkey hother hne hstart
    apply hne
    rw [← join_segments delimiter key, hfree key hkey other hother hstart, join_segments]
  exact hkeys.imp_of_mem fun hkey hother hne =>
    ⟨hstart hkey hother hne, hstart hother hkey hne.symm⟩

/-- A tree whose leaves are the values of a table at the segments of their keys flattens to the
table. -/
lemma flatten_perm_of_leafPaths_perm {node : Tree} (hkeys : (Table.keys flat).Nodup)
    (h : (leafPaths node).Perm
      (flat.map fun entry => (Path.segments delimiter entry.1, entry.2))) :
    (Path.flatten delimiter node "").Perm flat := by
  have hentries : ((leafPaths node).map fun leaf => (Text.join delimiter leaf.1, leaf.2)).Perm
      flat := by
    have hjoined := h.map fun leaf => (Text.join delimiter leaf.1, leaf.2)
    simpa [Function.comp_def, join_segments] using hjoined
  have hnodup : ((leafPaths node).map fun leaf => Text.join delimiter leaf.1).Nodup := by
    have hkeysPerm := hentries.map Prod.fst
    rw [List.map_map] at hkeysPerm
    exact hkeysPerm.nodup_iff.2 hkeys
  rw [flatten_eq_map_leafPaths delimiter "" hnodup]
  simpa using hentries

end Table

/-- A flat table of leaves in which no key leads below another can be expanded, and flattening what
comes of it gives the same entries, in some order. -/
theorem flatten_undoes_expand (delimiter : String) {flat : Table Tree}
    (hkeys : (Table.keys flat).Nodup) (hleaves : ∀ entry ∈ flat, entry.2.hasChildren = false)
    (hfree : ∀ key ∈ Table.keys flat, ∀ other ∈ Table.keys flat,
      Path.segments delimiter key <+: Path.segments delimiter other →
        Path.segments delimiter key = Path.segments delimiter other) :
    ∃ nested, Path.expand delimiter flat = .ok nested ∧
      (Path.flatten delimiter nested "").Perm flat := by
  let leaves := flat.map fun entry => (Path.segments delimiter entry.1, entry.2)
  have hvalues : ∀ leaf ∈ leaves, leaf.2.hasChildren = false := List.forall_mem_map.2 hleaves
  have hpaths : ∀ leaf ∈ leaves, leaf.1 ≠ [] :=
    List.forall_mem_map.2 fun entry _ => segments_ne_nil delimiter entry.1
  have hnothing : leafPaths (.object []) = [] := leafPaths_of_leaf rfl
  have hpairwise : (leaves ++ leafPaths (.object [])).Pairwise fun a b =>
      Incomparable a.1 b.1 := by
    have hkeysFree := pairwise_incomparable hkeys hfree
    rw [Table.keys, List.pairwise_map] at hkeysFree
    rwa [hnothing, List.append_nil, List.pairwise_map]
  obtain ⟨members, hput, hperm⟩ := putAll_perm (listsEmpty_of_leaf rfl) hvalues hpaths hpairwise
  rw [hnothing, List.append_nil] at hperm
  refine ⟨.object members, ?_, flatten_perm_of_leafPaths_perm hkeys hperm⟩
  rw [Path.expand, setAll_eq_putAll]
  exact hput

def orders : Table Tree :=
  [("ale.pint", .null), ("wine", .list []), ("ale.0", .object []), ("", .bool true)]

theorem orders_come_back_from_expansion :
    (Table.keys orders).Nodup ∧ (∀ entry ∈ orders, entry.2.hasChildren = false) ∧
      ∃ nested, Path.expand "." orders = .ok nested ∧ (Path.flatten "." nested "").Perm orders := by
  have hkeys : (Table.keys orders).Nodup := by decide
  have hleaves : ∀ entry ∈ orders, entry.2.hasChildren = false := by decide
  exact ⟨hkeys, hleaves, flatten_undoes_expand "." hkeys hleaves (by decide)⟩

end RuleChain.Proofs
