import RuleChain.Proofs.WriteFrame

/-!
# Reads and writes as a lens

Reading and writing walk a tree separately, and still they fit together: what was put is read, what
was read is put back without a trace, and of two values put in one place the second alone counts. A
write leaves containers all along its path, however its segments are spelled, whether they name what
is there, the place behind the last item or a null that gives way to an object.
-/

namespace RuleChain.Proofs
open RuleChain.Tree

lemma isContainer_withChild {node : Tree} {segment : String} (h : Takes node segment)
    (child : Tree) : (withChild node segment child).isContainer = true := by
  cases node with
  | null | object _ | list _ => rfl
  | bool _ | number _ | text _ => exact absurd (.scalar (by simp [kind]) rfl) (h _)

lemma opened_of_isContainer {node : Tree} (h : node.isContainer = true) : node.opened = node := by
  cases node with
  | null => cases h
  | _ => rfl

lemma takes_withChild {node : Tree} {segment : String} (h : Takes node segment) (child : Tree) :
    Takes (withChild node segment child) segment :=
  takes_of_child (child?_withChild_self h child)

lemma childOrNull_withChild {node : Tree} {segment : String} (h : Takes node segment)
    (child : Tree) : childOrNull (withChild node segment child) segment = child := by
  rw [childOrNull, child?_withChild_self h, Option.getD_some]

lemma setItem_setItem (items : List Tree) (i : Nat) (item item' : Tree) :
    setItem (setItem items i item) i item' = setItem items i item' := by
  by_cases hi : i = items.length <;> simp [setItem, hi]

/-- Of two children put under one segment the second alone counts. -/
lemma withChild_withChild {node : Tree} {segment : String} (h : Takes node segment)
    (child child' : Tree) :
    withChild (withChild node segment child) segment child' = withChild node segment child' := by
  cases node with
  | null => simp [withChild, opened, empty, Table.insert_insert]
  | object members => simp [withChild, opened, Table.insert_insert]
  | list items => simp [withChild, opened, setItem_setItem]
  | bool _ | number _ | text _ => exact absurd (.scalar (by simp [kind]) rfl) (h _)

section Walk

variable {d d' : Tree} {segments : List String}

lemma isContainer_of_put {value : Tree} (hne : segments ≠ [])
    (h : modifyParent (assignChild value) segments d = (.ok (), d')) : d'.isContainer = true := by
  cases segments with
  | nil => exact absurd rfl hne
  | cons segment rest =>
    obtain ⟨child, htakes, rfl, -⟩ := put_cons_eq_ok h
    exact isContainer_withChild htakes child

/-- Every node above the place of a write is a container afterwards. -/
theorem container_above_put {value : Tree}
    (h : modifyParent (assignChild value) segments d = (.ok (), d')) {before : List String}
    (hstart : before <+: segments) (hproper : before ≠ segments) :
    ∃ node, d'.get? before = some node ∧ node.isContainer = true := by
  induction segments generalizing before d d' with
  | nil => exact absurd (List.prefix_nil.1 hstart) hproper
  | cons segment rest ih =>
    cases before with
    | nil => exact ⟨d', rfl, isContainer_of_put (by simp) h⟩
    | cons head before =>
      obtain ⟨rfl, hrest⟩ := List.cons_prefix_cons.1 hstart
      obtain ⟨child, htakes, rfl, ⟨rfl, rfl⟩ | ⟨-, hchild⟩⟩ := put_cons_eq_ok h
      · simp [List.prefix_nil.1 hrest] at hproper
      · rw [get?_cons, child?_withChild_self htakes]
        exact ih hchild hrest (by simpa using hproper)

/-- A value that is read is put back without a change. -/
theorem put_of_get? {value : Tree} (h : d.get? segments = some value) :
    modifyParent (assignChild value) segments d = (.ok (), d) := by
  induction segments generalizing d with
  | nil => rfl
  | cons segment rest ih =>
    obtain ⟨child, hchild, hvalue⟩ := Option.bind_eq_some_iff.1 h
    have htakes : Takes d segment := takes_of_child hchild
    cases rest with
    | nil =>
      obtain rfl : child = value := by simpa using hvalue
      rw [modifyParent_single, assignChild, modifyChild_of_takes htakes, withChild_of_child hchild]
    | cons next rest =>
      have hopened : child.opened = child := by
        cases child with
        | null => cases hvalue
        | _ => rfl
      have hnode : childOrNull d segment = child := by rw [childOrNull, hchild, Option.getD_some]
      rw [modifyParent_cons, modifyChild_of_takes htakes, hnode, hopened, ih hvalue,
        withChild_of_child hchild]

/-- Of two values put in one place the second alone counts. -/
theorem put_put {value value' : Tree}
    (h : modifyParent (assignChild value) segments d = (.ok (), d')) :
    ∃ last, modifyParent (assignChild value') segments d' = (.ok (), last) ∧
      modifyParent (assignChild value') segments d = (.ok (), last) := by
  induction segments generalizing d d' with
  | nil =>
    obtain rfl : d = d' := (Prod.mk.inj h).2
    exact ⟨d, rfl, rfl⟩
  | cons segment rest ih =>
    obtain ⟨child, htakes, rfl, hcases⟩ := put_cons_eq_ok h
    have htakes' := takes_withChild htakes child
    cases rest with
    | nil =>
      refine ⟨withChild d segment value', ?_, ?_⟩
      · rw [modifyParent_single, assignChild, modifyChild_of_takes htakes',
          withChild_withChild htakes]
      · rw [modifyParent_single, assignChild, modifyChild_of_takes htakes]
    | cons next rest =>
      obtain ⟨hnil, -⟩ | ⟨hrest, hchild⟩ := hcases
      · cases hnil
      obtain ⟨last, hagain, honce⟩ := ih hchild
      have hopened : child.opened = child :=
        opened_of_isContainer (isContainer_of_put hrest hchild)
      refine ⟨withChild d segment last, ?_, ?_⟩
      · rw [modifyParent_cons, modifyChild_of_takes htakes', childOrNull_withChild htakes, hopened,
          hagain, withChild_withChild htakes]
      · rw [modifyParent_cons, modifyChild_of_takes htakes, honce]

end Walk

/-- Reading and writing at a path form a lens. What was put is read, below containers all along the
path; what is read, a null included, can be put back and changes nothing; and once a value could be
put, any other can be put in its place and gives the tree that it would have given by itself. -/
theorem path_access_is_lens (delimiter : String) (d : Tree) (p : String) :
    (∀ v d', Path.set delimiter d p v = (.ok (), d') →
      Path.lookup? delimiter d' p = some v ∧
        ∀ before, before <+: Path.segments delimiter p → before ≠ Path.segments delimiter p →
          ∃ node, d'.get? before = some node ∧ node.isContainer = true) ∧
    (∀ v, Path.lookup? delimiter d p = some v → Path.set delimiter d p v = (.ok (), d)) ∧
    ∀ v w d', Path.set delimiter d p v = (.ok (), d') →
      ∃ last, Path.set delimiter d' p w = (.ok (), last) ∧
        Path.set delimiter d p w = (.ok (), last) := by
  refine ⟨?_, fun v h => put_of_get? h, fun v w d' h => put_put h⟩
  intro v d' h
  exact ⟨lookup?_set h, fun before hstart hproper => container_above_put h hstart hproper⟩

def namedStock : Tree :=
  .object [("name", .text "bar"), ("items", .list [.object [("name", .text "ale")]])]

theorem name_below_null_item_is_lens :
    Path.set "." stock "items.+0.name" (.text "ale") = (.ok (), namedStock) ∧
      Path.lookup? "." namedStock "items.+0.name" = some (.text "ale") ∧
      (∃ node, namedStock.get? ["items", "+0"] = some node ∧ node.isContainer = true) ∧
      Path.set "." namedStock "items.+0.name" (.text "ale") = (.ok (), namedStock) ∧
      ∃ last, Path.set "." namedStock "items.+0.name" (.list []) = (.ok (), last) ∧
        Path.set "." stock "items.+0.name" (.list []) = (.ok (), last) := by
  have hset : Path.set "." stock "items.+0.name" (.text "ale") = (.ok (), namedStock) := rfl
  have hsegments : Path.segments "." "items.+0.name" = ["items", "+0", "name"] := rfl
  obtain ⟨hputGet, -, hputPut⟩ := path_access_is_lens "." stock "items.+0.name"
  obtain ⟨hread, habove⟩ := hputGet _ _ hset
  rw [hsegments] at habove
  have hgetPut := (path_access_is_lens "." namedStock "items.+0.name").2.1
  exact ⟨hset, hread, habove ["items", "+0"] (by simp) (by simp), hgetPut _ hread,
    hputPut _ (.list []) _ hset⟩

end RuleChain.Proofs
