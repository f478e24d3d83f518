import Mathlib.Data.List.Nodup
import Mathlib.Tactic.Lemma
import RuleChain.Proofs.WriteFrame

/-!
# Branches

The children of a tree under the segments that lead to them, and what holds of a tree and of
everything below it. The objects of a tree have distinct keys: reading makes no others, and no write
brings a key in twice.
-/

namespace RuleChain.Proofs
open RuleChain.Tree

/-- The children of a value, in document order, under the segments that lead to them. -/
def branches : Tree → List (String × Tree)
  | .object members => members
  | .list items => items.mapIdx fun i item => (toString i, item)
  | _ => []

/-- What holds of a value and of everything below it. -/
inductive Everywhere (P : Tree → Prop) : Tree → Prop where
  | intro {node} (here : P node) (below : ∀ branch ∈ branches node, Everywhere P branch.2) :
      Everywhere P node

/-- In no object of the tree a key stands twice. -/
def DistinctKeys : Tree → Prop :=
  Everywhere fun node => (Table.keys (branches node)).Nodup

lemma sizeOf_branch_lt {node : Tree} {branch : String × Tree} (h : branch ∈ branches node) :
    sizeOf branch.2 < sizeOf node := by
  cases node with
  | object members =>
    have hmember : sizeOf branch < sizeOf members := List.sizeOf_lt_of_mem h
    have hvalue : sizeOf branch.2 < sizeOf branch := by
      obtain ⟨key, value⟩ := branch
      rw [Prod.mk.sizeOf_spec]
      exact Nat.lt_add_of_pos_left (Nat.add_pos_left Nat.one_pos _)
    rw [Tree.object.sizeOf_spec]
    omega
  | list items =>
    obtain ⟨i, hi, rfl⟩ := List.mem_mapIdx.1 h
    have hitem : sizeOf items[i] < sizeOf items := List.sizeOf_lt_of_mem (List.getElem_mem hi)
    rw [Tree.list.sizeOf_spec]
    exact Nat.lt_add_left 1 hitem
  | _ => simp [branches] at h

/-- What holds of a value once it holds of its children holds of every value. -/
@[elab_as_elim]
theorem branch_induction {motive : Tree → Prop} (node : Tree)
    (step : ∀ node, (∀ branch ∈ branches node, motive branch.2) → motive node) : motive node :=
  step node fun branch hbranch =>
    have := sizeOf_branch_lt hbranch
    branch_induction branch.2 step
termination_by sizeOf node

lemma hasChildren_eq_false_iff {node : Tree} : node.hasChildren = false ↔ branches node = [] := by
  cases node <;> simp [hasChildren, branches]

lemma hasChildren_iff {node : Tree} : node.hasChildren = true ↔ branches node ≠ [] := by
  rw [← Bool.not_eq_false, hasChildren_eq_false_iff]

lemma everywhere_iff {P : Tree → Prop} {node : Tree} :
    Everywhere P node ↔ P node ∧ ∀ branch ∈ branches node, Everywhere P branch.2 :=
  ⟨fun ⟨here, below⟩ => ⟨here, below⟩, fun ⟨here, below⟩ => ⟨here, below⟩⟩

lemma everywhere_of_leaf {P : Tree → Prop} {node : Tree} (hleaf : node.hasChildren = false)
    (here : P node) : Everywhere P node :=
  ⟨here, by simp [hasChildren_eq_false_iff.1 hleaf]⟩

lemma keys_branches_list (items : List Tree) :
    Table.keys (branches (.list items)) = (List.range items.length).map toString := by
  apply List.ext_getElem <;> simp [Table.keys, branches]

lemma values_branches_list (items : List Tree) :
    (branches (.list items)).map Prod.snd = items := by
  apply List.ext_getElem <;> simp [branches]

/-- The indices of a list are distinct segments. -/
lemma nodup_keys_branches_list (items : List Tree) :
    (Table.keys (branches (.list items))).Nodup := by
  rw [keys_branches_list]
  refine List.nodup_range.map fun i j h => ?_
  rw [← Text.digitsValue_toString i, ← Text.digitsValue_toString j, h]

lemma distinctKeys_object_iff {members : List (String × Tree)} :
    DistinctKeys (.object members) ↔
      (Table.keys members).Nodup ∧ ∀ member ∈ members, DistinctKeys member.2 :=
  everywhere_iff

lemma distinctKeys_list_iff {items : List Tree} :
    DistinctKeys (.list items) ↔ ∀ item ∈ items, DistinctKeys item := by
  conv_rhs => rw [← values_branches_list items]
  rw [DistinctKeys, everywhere_iff, List.forall_mem_map]
  exact and_iff_right (nodup_keys_branches_list items)

lemma distinctKeys_of_leaf {node : Tree} (hleaf : node.hasChildren = false) : DistinctKeys node :=
  everywhere_of_leaf hleaf (by simp [hasChildren_eq_false_iff.1 hleaf, Table.keys])

section Reading

open Json

mutual

/-- What is read of a document has distinct keys, also where the document repeats a key. -/
theorem distinctKeys_of_ofDocument? {room : Nat} {document : Document} {node : Tree}
    (h : ofDocument? room document = some node) : DistinctKeys node := by
  cases document with
  | null | bool _ =>
    obtain rfl := Option.some.inj h
    exact distinctKeys_of_leaf rfl
  | number numeral =>
    obtain ⟨n, -, rfl⟩ := Option.map_eq_some_iff.1 h
    exact distinctKeys_of_leaf rfl
  | text pieces =>
    obtain ⟨s, -, rfl⟩ := Option.map_eq_some_iff.1 h
    exact distinctKeys_of_leaf rfl
  | list items =>
    rw [ofDocument?] at h
    split at h
    · cases h
    · obtain ⟨read, hread, rfl⟩ := Option.map_eq_some_iff.1 h
      exact distinctKeys_list_iff.2 (distinctKeys_of_ofItems? hread)
  | object members =>
    rw [ofDocument?] at h
    split at h
    · cases h
    · obtain ⟨entries, hread, rfl⟩ := Option.map_eq_some_iff.1 h
      have hkeys : (Table.keys (Table.ofEntries entries)).Nodup :=
        Table.nodup_keys_ofEntries entries
      refine distinctKeys_object_iff.2 ⟨hkeys, fun member hmember => ?_⟩
      exact distinctKeys_of_ofMembers? hread member (Table.mem_of_mem_ofEntries hmember)

theorem distinctKeys_of_ofItems? {room : Nat} {items : List Document} {read : List Tree}
    (h : ofItems? room items = some read) : ∀ item ∈ read, DistinctKeys item := by
  cases items with
  | nil =>
    obtain rfl := Option.some.inj h
    simp
  | cons item items =>
    rw [ofItems?] at h
    split at h
    · cases h
    · next node hnode =>
      obtain ⟨rest, hrest, rfl⟩ := Option.map_eq_some_iff.1 h
      exact List.forall_mem_cons.2
        ⟨distinctKeys_of_ofDocument? hnode, distinctKeys_of_ofItems? hrest⟩

theorem distinctKeys_of_ofMembers? {room : Nat} {members : List (List Piece × Document)}
    {entries : List (String × Tree)} (h : ofMembers? room members = some entries) :
    ∀ entry ∈ entries, DistinctKeys entry.2 := by
  cases members with
  | nil =>
    obtain rfl := Option.some.inj h
    simp
  | cons member members =>
    obtain ⟨key, value⟩ := member
    rw [ofMembers?] at h
    split at h
    · next k node hkey hnode =>
      obtain ⟨rest, hrest, rfl⟩ := Option.map_eq_some_iff.1 h
      exact List.forall_mem_cons.2
        ⟨distinctKeys_of_ofDocument? hnode, distinctKeys_of_ofMembers? hrest⟩
    · cases h

end

/-- Every tree that is read from a text has distinct keys. -/
theorem distinctKeys_of_parse? {text : String} {node : Tree} (h : Tree.parse? text = some node) :
    DistinctKeys node := by
  obtain ⟨document, -, hread⟩ := Option.bind_eq_some_iff.1 h
  exact distinctKeys_of_ofDocument? hread

end Reading

section Writing

variable {P : Tree → Prop} {node child : Tree} {segment : String}

lemma exists_branch_of_child? (h : node.child? segment = some child) :
    ∃ branch ∈ branches node, branch.2 = child := by
  cases node with
  | object members =>
    obtain ⟨before, after, rfl, -⟩ := Table.exists_place_of_get? h
    exact ⟨(segment, child), by simp [branches], rfl⟩
  | list items =>
    obtain ⟨i, -, hitem⟩ := Option.bind_eq_some_iff.1 h
    have hmem : child ∈ (branches (.list items)).map Prod.snd := by
      rw [values_branches_list]
      exact List.mem_of_getElem? hitem
    exact List.mem_map.1 hmem
  | _ => cases h

lemma everywhere_of_child? (h : Everywhere P node) (hchild : node.child? segment = some child) :
    Everywhere P child := by
  obtain ⟨branch, hbranch, rfl⟩ := exists_branch_of_child? hchild
  exact (everywhere_iff.1 h).2 branch hbranch

lemma everywhere_of_get? {segments : List String} (h : Everywhere P node)
    (hnode : node.get? segments = some child) : Everywhere P child := by
  induction segments generalizing node with
  | nil =>
    obtain rfl : node = child := Option.some.inj hnode
    exact h
  | cons segment rest ih =>
    obtain ⟨next, hnext, hrest⟩ := Option.bind_eq_some_iff.1 hnode
    exact ih (everywhere_of_child? h hnext) hrest

lemma distinctKeys_of_child? (h : DistinctKeys node) (hchild : node.child? segment = some child) :
    DistinctKeys child :=
  everywhere_of_child? h hchild

/-- Below a segment a write goes on in a child, or in a new object. -/
lemma everywhere_below (hempty : P empty) (h : Everywhere P node) (segment : String) :
    Everywhere P (childOrNull node segment).opened := by
  obtain ⟨hnull, -⟩ | ⟨child, hchild, heq, hopened⟩ := childOrNull_cases node segment
  · rw [hnull]
    exact everywhere_of_leaf rfl hempty
  · rw [heq, hopened]
    exact everywhere_of_child? h hchild

lemma eq_or_mem_of_mem_setItem {items : List Tree} {i : Nat} {item other : Tree}
    (h : other ∈ setItem items i item) : other = item ∨ other ∈ items := by
  unfold setItem at h
  split at h
  · simpa [or_comm] using h
  · exact (List.mem_or_eq_of_mem_set h).symm

/-- The children of a node that has another child are that one and children that it had. -/
lemma child_or_branch_of_mem_withChild {branch : String × Tree}
    (h : branch ∈ branches (withChild node segment child)) :
    branch.2 = child ∨ ∃ other ∈ branches node, other.2 = branch.2 := by
  cases node with
  | null =>
    obtain rfl := List.mem_singleton.1 h
    exact .inl rfl
  | object members =>
    obtain rfl | hmember := Table.eq_or_mem_of_mem_insert h
    · exact .inl rfl
    · exact .inr ⟨branch, hmember, rfl⟩
  | list items =>
    have hitem : branch.2 ∈ setItem items ((Text.readCount? segment.toList).getD 0) child := by
      rw [← values_branches_list (setItem items _ child)]
      exact List.mem_map_of_mem h
    obtain heq | hmem := eq_or_mem_of_mem_setItem hitem
    · exact .inl heq
    · rw [← values_branches_list items] at hmem
      exact .inr (List.mem_map.1 hmem)
  | bool _ | number _ | text _ => cases h

lemma everywhere_withChild (hhere : P (withChild node segment child)) (h : Everywhere P node)
    (hchild : Everywhere P child) : Everywhere P (withChild node segment child) := by
  refine ⟨hhere, fun branch hbranch => ?_⟩
  obtain heq | ⟨other, hother, heq⟩ := child_or_branch_of_mem_withChild hbranch
  · rwa [heq]
  · rw [← heq]
    exact (everywhere_iff.1 h).2 other hother

/-- What holds of everything in a tree and in a value holds of everything in the tree in which the
value was put, if a node that has it keeps it when it takes another child. -/
theorem everywhere_put {value d d' : Tree} {segments : List String} (hempty : P empty)
    (hstep : ∀ node segment child, Takes node segment → P node →
      P (withChild node segment child))
    (hd : Everywhere P d) (hvalue : Everywhere P value)
    (h : modifyParent (assignChild value) segments d = (.ok (), d')) : Everywhere P d' := by
  induction segments generalizing d d' with
  | nil =>
    obtain rfl : d = d' := (Prod.mk.inj h).2
    exact hd
  | cons segment rest ih =>
    obtain ⟨child, htakes, rfl, hbelow⟩ := put_cons_eq_ok h
    have hhere := hstep d segment child htakes (everywhere_iff.1 hd).1
    obtain ⟨-, rfl⟩ | ⟨-, hchild⟩ := hbelow
    · exact everywhere_withChild hhere hd hvalue
    · exact everywhere_withChild hhere hd (ih (everywhere_below hempty hd segment) hchild)

/-- A write brings no key in twice. -/
theorem distinctKeys_put {value d d' : Tree} {segments : List String} (hd : DistinctKeys d)
    (hvalue : DistinctKeys value)
    (h : modifyParent (assignChild value) segments d = (.ok (), d')) : DistinctKeys d' := by
  refine everywhere_put List.nodup_nil (fun node segment child _ hkeys => ?_) hd hvalue h
  cases node with
  | null => exact List.nodup_singleton segment
  | object members => exact Table.nodup_keys_insert hkeys segment child
  | list items => exact nodup_keys_branches_list _
  | bool _ | number _ | text _ => exact List.nodup_nil

end Writing

end RuleChain.Proofs
