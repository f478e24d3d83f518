import Mathlib.Tactic.Lemma
import RuleChain.Proofs.WriteLens

/-!
# Removals

A removal walks as a write does and makes the same parents. It is the write of a changed parent in
the place of the parent, so that what is known of writes carries over. Main statement: removing what
a write has put gives the tree that removing would have given without the write, and beside the
child that is gone nothing is changed but the places behind it in a list.
-/

namespace RuleChain.Proofs
open RuleChain.Tree

section Tables

variable {α : Type}

lemma erase_insert (t : List (String × α)) (key : String) (value : α) :
    Table.erase (Table.insert t key value) key = Table.erase t key := by
  induction t with
  | nil => simp [Table.insert, Table.erase]
  | cons entry rest ih =>
    obtain ⟨k, old⟩ := entry
    by_cases hk : k = key
    · simp [Table.insert, Table.erase, hk]
    · simp [Table.insert, Table.erase, hk, ih]

lemma keys_erase (t : List (String × α)) (key : String) :
    Table.keys (Table.erase t key) = (Table.keys t).filter (· ≠ key) := by
  induction t with
  | nil => rfl
  | cons entry rest ih =>
    obtain ⟨k, old⟩ := entry
    unfold Table.keys at ih ⊢
    by_cases hk : k = key
    · simp [Table.erase, hk, ih]
    · simp [Table.erase, hk, ih]

end Tables

lemma eraseIdx_setItem {items : List Tree} {i : Nat} (h : i ≤ items.length) (item : Tree) :
    (setItem items i item).eraseIdx i = items.eraseIdx i := by
  apply List.ext_getElem?
  intro j
  rw [List.getElem?_eraseIdx, List.getElem?_eraseIdx]
  split
  · next hj => rw [getElem?_setItem h, if_neg (by omega)]
  · next hj => rw [getElem?_setItem h, if_neg (by omega)]

section Child

variable {node left : Tree} {segment : String}

lemma removeChild_withChild (h : Takes node segment) (hnode : node.kind ≠ .null) (child : Tree) :
    removeChild (withChild node segment child) segment = removeChild node segment := by
  cases node with
  | null => exact absurd rfl hnode
  | object members => simp [withChild, opened, removeChild, erase_insert]
  | list items =>
    obtain ⟨i, hi, hle⟩ := takes_list_iff.1 h
    simp [withChild, opened, removeChild, hi, eraseIdx_setItem hle]
  | bool _ | number _ | text _ => exact absurd (.scalar (by simp [kind]) rfl) (h _)

/-- A container has a child less after a removal, and remains a container. -/
lemma removeChild_of_takes (h : Takes node segment) (hnode : node.kind ≠ .null) :
    ∃ left, removeChild node segment = (.ok (), left) ∧ left.isContainer = true := by
  cases node with
  | null => exact absurd rfl hnode
  | object members => exact ⟨_, rfl, rfl⟩
  | list items =>
    obtain ⟨i, hi, -⟩ := takes_list_iff.1 h
    refine ⟨.list (items.eraseIdx i), ?_, rfl⟩
    simp [removeChild, hi]
  | bool _ | number _ | text _ => exact absurd (.scalar (by simp [kind]) rfl) (h _)

end Child

lemma get?_append (node : Tree) (before after : List String) :
    node.get? (before ++ after) = (node.get? before).bind (Tree.get? · after) := by
  induction before generalizing node with
  | nil => rfl
  | cons segment before ih =>
    rw [List.cons_append, get?_cons, get?_cons]
    cases node.child? segment with
    | none => rfl
    | some child => exact ih child

/-- The parent that a walk finds or makes at some segments: where there is none, and in the place of
null, it is the empty object. -/
def parentAt (d : Tree) (segments : List String) : Tree :=
  ((d.get? segments).getD .null).opened

lemma kind_opened_ne (node : Tree) : node.opened.kind ≠ .null := by
  cases node <;> simp [opened, Tree.empty, kind]

lemma parentAt_nil {d : Tree} (hd : d.kind ≠ .null) : parentAt d [] = d := by
  cases d with
  | null => exact absurd rfl hd
  | _ => rfl

lemma parentAt_of_container {d node : Tree} {segments : List String}
    (h : d.get? segments = some node) (hnode : node.isContainer = true) :
    parentAt d segments = node := by
  rw [parentAt, h, Option.getD_some, opened_of_isContainer hnode]

lemma parentAt_singleton (d : Tree) (segment : String) :
    parentAt d [segment] = (childOrNull d segment).opened := by
  unfold parentAt childOrNull
  rw [get?_cons]
  cases d.child? segment <;> rfl

lemma parentAt_cons (d : Tree) (segment next : String) (rest : List String) :
    parentAt d (segment :: next :: rest) =
      parentAt (childOrNull d segment).opened (next :: rest) := by
  unfold parentAt
  rw [get?_childOrNull_opened]

/-- A walk that changes a child of a node below the root puts the changed node in its place. -/
theorem modifyParent_concat_eq_ok {change : Tree → String → Write} {before : List String}
    {last : String} {d d' : Tree} (hbefore : before ≠ []) :
    modifyParent change (before ++ [last]) d = (.ok (), d') ↔
      ∃ left, change (parentAt d before) last = (.ok (), left) ∧
        modifyParent (assignChild left) before d = (.ok (), d') := by
  induction before generalizing d d' with
  | nil => exact absurd rfl hbefore
  | cons segment rest ih =>
    have hwalk : ∀ f : Tree → Write, d.modifyChild segment f = (.ok (), d') ↔
        ∃ child, Takes d segment ∧ f (childOrNull d segment) = (.ok (), child) ∧
          d' = withChild d segment child := by
      intro f
      refine ⟨modifyChild_eq_ok, ?_⟩
      rintro ⟨child, htakes, hchild, rfl⟩
      rw [modifyChild_of_takes htakes, hchild]
    cases rest with
    | nil =>
      rw [List.cons_append, List.nil_append, modifyParent_cons, hwalk, parentAt_singleton]
      simp only [modifyParent_single, assignChild, hwalk, Prod.mk.injEq, true_and]
      constructor
      · rintro ⟨child, htakes, hchild, rfl⟩
        exact ⟨child, hchild, child, htakes, rfl, rfl⟩
      · rintro ⟨left, hleft, child, htakes, rfl, rfl⟩
        exact ⟨left, htakes, hleft, rfl⟩
    | cons next rest =>
      have hbelow : ∀ node child : Tree,
          modifyParent change (next :: (rest ++ [last])) node = (.ok (), child) ↔
            ∃ left, change (parentAt node (next :: rest)) last = (.ok (), left) ∧
              modifyParent (assignChild left) (next :: rest) node = (.ok (), child) :=
        fun node child => ih (List.cons_ne_nil next rest)
      simp only [List.cons_append, modifyParent_cons, hwalk, parentAt_cons, hbelow]
      constructor
      · rintro ⟨child, htakes, ⟨left, hleft, hput⟩, rfl⟩
        exact ⟨left, hleft, child, htakes, hput, rfl⟩
      · rintro ⟨left, hleft, child, htakes, hput, rfl⟩
        exact ⟨child, htakes, ⟨left, hleft, hput⟩, rfl⟩

section Removal

variable {d d' : Tree} {before : List String} {last : String} (hd : d.kind ≠ .null)

include hd

/-- What a walk that changes a child of the parent at some segments does: the parent takes the
change, the nodes above it are containers, and what is independent of it is left alone. -/
lemma changes_at_parent {change : Tree → String → Write}
    (h : modifyParent change (before ++ [last]) d = (.ok (), d')) :
    ∃ left, change (parentAt d before) last = (.ok (), left) ∧ d'.get? before = some left ∧
      (∀ above, above <+: before → above ≠ before →
        ∃ node, d'.get? above = some node ∧ node.isContainer = true) ∧
      ∀ q, Independent before q → d'.get? q = d.get? q := by
  by_cases hbefore : before = []
  · subst hbefore
    refine ⟨d', ?_, rfl, ?_, fun q hq => absurd hq not_independent_nil_left⟩
    · rwa [parentAt_nil hd]
    · intro above habove hne
      exact absurd (List.prefix_nil.1 habove) hne
  · obtain ⟨left, hleft, hput⟩ := (modifyParent_concat_eq_ok hbefore).1 h
    exact ⟨left, hleft, get?_of_put hbefore hput, fun above => container_above_put hput,
      fun q hq => get?_of_put_of_independent hq hput⟩

lemma takes_of_put {value : Tree}
    (h : modifyParent (assignChild value) (before ++ [last]) d = (.ok (), d')) :
    Takes (parentAt d before) last := by
  obtain ⟨left, hleft, -⟩ := changes_at_parent hd h
  obtain ⟨-, htakes, -⟩ := modifyChild_eq_ok hleft
  exact htakes

/-- Removing what was put gives what removing gives without the write. -/
theorem remove_of_put {value : Tree}
    (h : modifyParent (assignChild value) (before ++ [last]) d = (.ok (), d')) :
    ∃ cleared, modifyParent removeChild (before ++ [last]) d = (.ok (), cleared) ∧
      modifyParent removeChild (before ++ [last]) d' = (.ok (), cleared) := by
  have htakes : Takes (parentAt d before) last := takes_of_put hd h
  have hparent : (parentAt d before).kind ≠ .null := kind_opened_ne _
  obtain ⟨left, hleft, -⟩ := removeChild_of_takes htakes hparent
  obtain ⟨written, hwritten, hfound, -⟩ := changes_at_parent hd h
  obtain ⟨child, -, -, rfl⟩ := modifyChild_eq_ok hwritten
  have hagain : removeChild (withChild (parentAt d before) last child) last = (.ok (), left) := by
    rw [removeChild_withChild htakes hparent, hleft]
  by_cases hbefore : before = []
  · subst hbefore
    rw [parentAt_nil hd] at hleft hagain hfound
    obtain rfl : d' = withChild d last child := Option.some.inj hfound
    exact ⟨left, hleft, hagain⟩
  · obtain ⟨_, hsame, hput⟩ := (modifyParent_concat_eq_ok hbefore).1 h
    obtain rfl := (Prod.mk.inj (hwritten.symm.trans hsame)).2
    obtain ⟨cleared, hafter, hwithout⟩ :
        ∃ cleared, modifyParent (assignChild left) before d' = (.ok (), cleared) ∧
          modifyParent (assignChild left) before d = (.ok (), cleared) := put_put hput
    have hnode : parentAt d' before = withChild (parentAt d before) last child :=
      parentAt_of_container hfound (isContainer_withChild htakes child)
    refine ⟨cleared, ?_, ?_⟩
    · exact (modifyParent_concat_eq_ok hbefore).2 ⟨left, hleft, hwithout⟩
    · exact (modifyParent_concat_eq_ok hbefore).2 ⟨left, by rw [hnode, hagain], hafter⟩

end Removal

/-- Removing undoes a write. The tree after it is the one that removing gives without the write,
and has containers all along the path. A parent that is an object has lost the key and nothing else;
in a parent that is a list the item that was addressed, if there was one, is gone and the items
behind it have moved down by one. What is independent of the parent reads as before the write. -/
theorem removal_cancels_write {delimiter p : String} {d d' v : Tree} (hd : d.kind ≠ .null)
    (h : Path.set delimiter d p v = (.ok (), d')) :
    ∃ cleared, Path.unset delimiter d p = (.ok (), cleared) ∧
      Path.unset delimiter d' p = (.ok (), cleared) ∧
      (∀ above, above <+: Path.segments delimiter p → above ≠ Path.segments delimiter p →
        ∃ node, cleared.get? above = some node ∧ node.isContainer = true) ∧
      ∀ before last, Path.segments delimiter p = before ++ [last] →
        (∀ members, parentAt d before = .object members →
          Path.lookup? delimiter cleared p = none ∧
          ∃ members', cleared.get? before = some (.object members') ∧
            Table.keys members' = (Table.keys members).filter (· ≠ last) ∧
            ∀ key, key ≠ last → Table.get? members' key = Table.get? members key) ∧
        (∀ items, parentAt d before = .list items →
          ∃ i items', Text.readCount? last.toList = some i ∧
            cleared.get? before = some (.list items') ∧
            (∀ j < i, items'[j]? = items[j]?) ∧ (∀ j ≥ i, items'[j]? = items[j + 1]?) ∧
            (items.length ≤ i → items' = items)) ∧
        ∀ q, Independent before (Path.segments delimiter q) →
          Path.lookup? delimiter cleared q = Path.lookup? delimiter d q := by
  obtain ⟨before, last, hsegments⟩ : ∃ before last, Path.segments delimiter p = before ++ [last] :=
    ⟨_, _, (List.dropLast_concat_getLast (segments_ne_nil delimiter p)).symm⟩
  unfold Path.set at h
  unfold Path.unset Path.lookup?
  rw [hsegments] at h ⊢
  have htakes : Takes (parentAt d before) last := takes_of_put hd h
  obtain ⟨cleared, hwithout, hafter⟩ := remove_of_put hd h
  obtain ⟨left, hleft, hfound, habove, hframe⟩ := changes_at_parent hd hwithout
  obtain ⟨left', hremoved, hcontainer⟩ := removeChild_of_takes htakes (kind_opened_ne _)
  obtain rfl : left = left' := (Prod.mk.inj (hleft.symm.trans hremoved)).2
  refine ⟨cleared, hwithout, hafter, ?_, ?_⟩
  · intro above hstart hproper
    obtain hshort | hlong := List.prefix_concat_iff.1 hstart
    · exact absurd hshort hproper
    · by_cases hwhole : above = before
      · exact ⟨left, hwhole ▸ hfound, hcontainer⟩
      · exact habove above hlong hwhole
  · intro before' last' hsplit
    obtain ⟨rfl, hlast⟩ := List.append_inj' hsplit rfl
    obtain rfl : last = last' := List.singleton_inj.1 hlast
    refine ⟨?_, ?_, fun q hq => hframe _ hq⟩
    · intro members hparent
      rw [hparent, removeChild] at hleft
      obtain rfl := (Prod.mk.inj hleft).2
      refine ⟨?_, Table.erase members last, hfound, keys_erase members last, ?_⟩
      · simp [get?_append, hfound, child?, Table.get?_erase]
      · intro key hkey
        rw [Table.get?_erase, if_neg hkey.symm]
    · intro items hparent
      rw [hparent] at htakes hleft
      obtain ⟨i, hi, -⟩ := takes_list_iff.1 htakes
      rw [removeChild, hi] at hleft
      obtain rfl := (Prod.mk.inj hleft).2
      refine ⟨i, items.eraseIdx i, hi, hfound, ?_, ?_, List.eraseIdx_of_length_le⟩
      · intro j hj
        rw [List.getElem?_eraseIdx_of_lt hj]
      · intro j hj
        rw [List.getElem?_eraseIdx_of_ge hj]

def tab : Tree :=
  .object [("table", .text "4"), ("orders", .list [.text "ale", .null, .text "wine"])]

def tabWithRum : Tree :=
  .object [("table", .text "4"), ("orders", .list [.text "ale", .text "rum", .text "wine"])]

/-- The numeral has a plus sign, and the order put in the place of null is taken back. -/
theorem order_behind_cancelled_one_moves_down :
    tab.kind ≠ .null ∧ Path.set "." tab "orders.+1" (.text "rum") = (.ok (), tabWithRum) ∧
      ∃ cleared items, Path.unset "." tab "orders.+1" = (.ok (), cleared) ∧
        Path.unset "." tabWithRum "orders.+1" = (.ok (), cleared) ∧
        cleared.get? ["orders"] = some (.list items) ∧ items[0]? = some (.text "ale") ∧
        items[1]? = some (.text "wine") ∧ Path.lookup? "." cleared "table" = some (.text "4") := by
  have hroot : tab.kind ≠ .null := by decide
  have hset : Path.set "." tab "orders.+1" (.text "rum") = (.ok (), tabWithRum) := rfl
  obtain ⟨cleared, hwithout, hafter, -, hparent⟩ := removal_cancels_write hroot hset
  obtain ⟨-, hlist, hframe⟩ := hparent ["orders"] "+1" rfl
  obtain ⟨i, items, hi, hfound, hfront, hbehind, -⟩ := hlist _ rfl
  obtain rfl : 1 = i := Option.some.inj (by rw [← hi]; rfl)
  have htable : Path.lookup? "." cleared "table" = some (.text "4") := hframe "table" (by decide)
  exact ⟨hroot, hset, cleared, items, hwithout, hafter, hfound, hfront 0 Nat.one_pos,
    hbehind 1 (Nat.le_refl 1), htable⟩

end RuleChain.Proofs
