import RuleChain.Proofs.SplitJoin
import RuleChain.Proofs.WriteRefusal

/-!
# What a write changes

A value put at some segments is found there afterwards, and every path that parts from them before
either ends reads as before, whether it has a value or not. Segments that are different texts may
still address one item of a list, so two paths part only where the segments do not read as the same
index.
-/

namespace RuleChain.Proofs
open RuleChain.Tree

/-- Two segments read as the same index of a list. -/
def SameIndex (s t : String) : Prop :=
  ∃ i, Text.readCount? s.toList = some i ∧ Text.readCount? t.toList = some i

/-- Neither list of segments is the beginning of the other, and the first two segments that differ
do not read as the same index. -/
def Independent (p q : List String) : Prop :=
  ∃ common s t p' q', p = common ++ s :: p' ∧ q = common ++ t :: q' ∧ s ≠ t ∧ ¬SameIndex s t

lemma Independent.symm {p q : List String} (h : Independent p q) : Independent q p := by
  obtain ⟨common, s, t, p', q', hp, hq, hne, hindex⟩ := h
  exact ⟨common, t, s, q', p', hq, hp, hne.symm, fun ⟨i, ht, hs⟩ => hindex ⟨i, hs, ht⟩⟩

lemma independent_cons_iff {s t : String} {p q : List String} :
    Independent (s :: p) (t :: q) ↔ s = t ∧ Independent p q ∨ s ≠ t ∧ ¬SameIndex s t := by
  constructor
  · rintro ⟨common, s', t', p', q', hp, hq, hne, hindex⟩
    cases common with
    | nil =>
      simp only [List.nil_append, List.cons.injEq] at hp hq
      obtain ⟨⟨rfl, rfl⟩, rfl, rfl⟩ := And.intro hp hq
      exact .inr ⟨hne, hindex⟩
    | cons head common =>
      simp only [List.cons_append, List.cons.injEq] at hp hq
      exact .inl ⟨hp.1.trans hq.1.symm, common, s', t', p', q', hp.2, hq.2, hne, hindex⟩
  · rintro (⟨rfl, common, s', t', p', q', rfl, rfl, hne, hindex⟩ | ⟨hne, hindex⟩)
    · exact ⟨s :: common, s', t', p', q', rfl, rfl, hne, hindex⟩
    · exact ⟨[], s, t, p, q, rfl, rfl, hne, hindex⟩

lemma not_independent_nil_left {q : List String} : ¬Independent [] q := by
  rintro ⟨common, s, t, p', q', hp, -⟩
  simp at hp

lemma not_independent_nil_right {p : List String} : ¬Independent p [] :=
  fun h => not_independent_nil_left h.symm

instance decidableSameIndex (s t : String) : Decidable (SameIndex s t) :=
  decidable_of_iff
    ((Text.readCount? s.toList).isSome ∧ Text.readCount? t.toList = Text.readCount? s.toList) (by
      unfold SameIndex
      cases Text.readCount? s.toList <;> simp)

instance decidableIndependent : (p q : List String) → Decidable (Independent p q)
  | [], _ => .isFalse not_independent_nil_left
  | _ :: _, [] => .isFalse not_independent_nil_right
  | _ :: p, _ :: q =>
    have := decidableIndependent p q
    decidable_of_iff _ independent_cons_iff.symm

example : ¬Independent ["items", "7"] ["items", "+07"] := by decide

lemma getElem?_setItem {items : List Tree} {i : Nat} (h : i ≤ items.length) (child : Tree)
    (j : Nat) : (setItem items i child)[j]? = if i = j then some child else items[j]? := by
  unfold setItem
  split
  · next hi =>
    subst hi
    rw [List.getElem?_append]
    split
    · next hj => rw [if_neg (by omega)]
    · next hj => by_cases hij : items.length = j <;> grind
  · next hi =>
    rw [List.getElem?_set]
    grind

lemma child?_withChild_self {node : Tree} {segment : String} (h : Takes node segment)
    (child : Tree) : (withChild node segment child).child? segment = some child := by
  cases node with
  | null => simp [withChild, opened, empty, child?, Table.insert, Table.get?]
  | object members => simp [withChild, opened, child?, Table.get?_insert]
  | list items =>
    obtain ⟨i, hi, hle⟩ := takes_list_iff.1 h
    simp [withChild, opened, child?, hi, getElem?_setItem hle]
  | bool _ | number _ | text _ => exact absurd (.scalar (by simp [kind]) rfl) (h _)

lemma child?_withChild_of_ne {node : Tree} {segment other : String} (h : Takes node segment)
    (hne : segment ≠ other) (hindex : ¬SameIndex segment other) (child : Tree) :
    (withChild node segment child).child? other = node.child? other := by
  cases node with
  | null => simp [withChild, opened, empty, child?, Table.insert, Table.get?, hne]
  | object members => simp [withChild, opened, child?, Table.get?_insert, hne]
  | list items =>
    obtain ⟨i, hi, hle⟩ := takes_list_iff.1 h
    cases hj : Text.readCount? other.toList with
    | none => simp [withChild, opened, child?, hj]
    | some j =>
      have hij : i ≠ j := fun hij => hindex ⟨i, hi, hij ▸ hj⟩
      simp [withChild, opened, child?, hi, hj, getElem?_setItem hle, hij]
  | bool _ | number _ | text _ => exact absurd (.scalar (by simp [kind]) rfl) (h _)

lemma modifyChild_eq_ok {node node' : Tree} {segment : String} {f : Tree → Write}
    (h : node.modifyChild segment f = (.ok (), node')) :
    ∃ child, Takes node segment ∧ f (childOrNull node segment) = (.ok (), child) ∧
      node' = withChild node segment child := by
  obtain ⟨e, hrefuses⟩ | htakes := refuses_or_takes node segment
  · rw [modifyChild_of_refuses hrefuses] at h
    cases h
  · rw [modifyChild_of_takes htakes, Prod.mk.injEq] at h
    exact ⟨_, htakes, Prod.ext h.1 rfl, h.2.symm⟩

lemma get?_childOrNull_opened (node : Tree) (segment next : String) (rest : List String) :
    (childOrNull node segment).opened.get? (next :: rest) =
      node.get? (segment :: next :: rest) := by
  rw [get?_cons node]
  obtain ⟨hnull, hchild⟩ | ⟨child, hchild, heq, hopened⟩ := childOrNull_cases node segment
  · rw [hnull]
    cases h : node.child? segment with
    | none => rfl
    | some child =>
      obtain rfl := hchild child h
      rfl
  · rw [heq, hopened, hchild]
    rfl

lemma put_cons_eq_ok {value d d' : Tree} {segment : String} {rest : List String}
    (h : modifyParent (assignChild value) (segment :: rest) d = (.ok (), d')) :
    ∃ child, Takes d segment ∧ d' = withChild d segment child ∧
      (rest = [] ∧ child = value ∨ rest ≠ [] ∧
        modifyParent (assignChild value) rest (childOrNull d segment).opened =
          (.ok (), child)) := by
  cases rest with
  | nil =>
    rw [modifyParent_single, assignChild] at h
    obtain ⟨child, htakes, hchild, rfl⟩ := modifyChild_eq_ok h
    exact ⟨child, htakes, rfl, .inl ⟨rfl, (Prod.mk.inj hchild).2.symm⟩⟩
  | cons next rest =>
    rw [modifyParent_cons] at h
    obtain ⟨child, htakes, hchild, rfl⟩ := modifyChild_eq_ok h
    exact ⟨child, htakes, rfl, .inr ⟨by simp, hchild⟩⟩

/-- A value that was put is found where it was put. -/
theorem get?_of_put {value : Tree} {segments : List String} {d d' : Tree}
    (hne : segments ≠ []) (h : modifyParent (assignChild value) segments d = (.ok (), d')) :
    d'.get? segments = some value := by
  induction segments generalizing d d' with
  | nil => exact absurd rfl hne
  | cons segment rest ih =>
    obtain ⟨child, htakes, rfl, ⟨rfl, rfl⟩ | ⟨hrest, hchild⟩⟩ := put_cons_eq_ok h
    · simp [child?_withChild_self htakes]
    · rw [get?_cons, child?_withChild_self htakes]
      exact ih hrest hchild

/-- A write leaves alone what is independent of its path. -/
theorem get?_of_put_of_independent {value : Tree} {segments q : List String} {d d' : Tree}
    (hq : Independent segments q)
    (h : modifyParent (assignChild value) segments d = (.ok (), d')) :
    d'.get? q = d.get? q := by
  induction segments generalizing d d' q with
  | nil => exact absurd hq not_independent_nil_left
  | cons segment rest ih =>
    cases q with
    | nil => exact absurd hq not_independent_nil_right
    | cons other q =>
      obtain ⟨child, htakes, rfl, hchild⟩ := put_cons_eq_ok h
      obtain ⟨rfl, hrest⟩ | ⟨hne, hindex⟩ := independent_cons_iff.1 hq
      · obtain ⟨rfl, -⟩ | ⟨-, hchild⟩ := hchild
        · exact absurd hrest not_independent_nil_left
        · cases q with
          | nil => exact absurd hrest not_independent_nil_right
          | cons next q =>
            rw [get?_cons, child?_withChild_self htakes, ← get?_childOrNull_opened]
            exact ih hrest hchild
      · rw [get?_cons, get?_cons, child?_withChild_of_ne htakes hne hindex]

lemma segments_ne_nil (delimiter path : String) : Path.segments delimiter path ≠ [] := by
  unfold Path.segments
  split
  · simp
  · simp [Text.split, splitChars_ne_nil]

section Lookup

variable {delimiter p : String} {d d' v : Tree}

theorem lookup?_set (h : Path.set delimiter d p v = (.ok (), d')) :
    Path.lookup? delimiter d' p = some v :=
  get?_of_put (segments_ne_nil delimiter p) h

theorem lookup?_set_of_independent {q : String}
    (hq : Independent (Path.segments delimiter p) (Path.segments delimiter q))
    (h : Path.set delimiter d p v = (.ok (), d')) :
    Path.lookup? delimiter d' q = Path.lookup? delimiter d q :=
  get?_of_put_of_independent hq h

end Lookup

/-- A container on the way of a write takes another child under the next segment of the path. -/
theorem get?_above_put {value d d' node : Tree} {before after : List String} {segment : String}
    (h : modifyParent (assignChild value) (before ++ segment :: after) d = (.ok (), d'))
    (hnode : d.get? before = some node) (hcontainer : node.isContainer = true) :
    Takes node segment ∧ ∃ child, d'.get? before = some (withChild node segment child) := by
  induction before generalizing d d' with
  | nil =>
    obtain rfl : d = node := by simpa using hnode
    obtain ⟨child, htakes, rfl, -⟩ := put_cons_eq_ok h
    exact ⟨htakes, child, rfl⟩
  | cons head before ih =>
    obtain ⟨old, hold, hreached⟩ := Option.bind_eq_some_iff.1 hnode
    obtain ⟨child, htakes, rfl, ⟨hnil, -⟩ | ⟨-, hchild⟩⟩ := put_cons_eq_ok h
    · simp at hnil
    · rw [get?_cons, child?_withChild_self htakes]
      -- a node with a container at or below it is no null, so the walk goes on in it unchanged
      have hopened : old.opened = old := by
        cases old with
        | null =>
          cases before with
          | nil =>
            obtain rfl : node = .null := (Option.some.inj hreached).symm
            cases hcontainer
          | cons _ _ => cases hreached
        | _ => rfl
      rw [childOrNull, hold, Option.getD_some, hopened] at hchild
      exact ih hchild hreached

/-- A write changes nothing but its path. Every path independent of it reads as before, be it to a
value or to none. On the way an object keeps its keys in their order, a new one coming last, and a
list has one item replaced or one more at its end. -/
theorem write_changes_only_its_path {delimiter p : String} {d d' v : Tree}
    (h : Path.set delimiter d p v = (.ok (), d')) :
    (∀ q, Independent (Path.segments delimiter p) (Path.segments delimiter q) →
      Path.lookup? delimiter d' q = Path.lookup? delimiter d q) ∧
    ∀ before segment after, Path.segments delimiter p = before ++ segment :: after →
      (∀ members, d.get? before = some (.object members) →
        ∃ members', d'.get? before = some (.object members') ∧
          Table.keys members' = if segment ∈ Table.keys members then Table.keys members
            else Table.keys members ++ [segment]) ∧
      ∀ items, d.get? before = some (.list items) →
        ∃ i item, Text.readCount? segment.toList = some i ∧
          (i < items.length ∧ d'.get? before = some (.list (items.set i item)) ∨
            i = items.length ∧ d'.get? before = some (.list (items ++ [item]))) := by
  refine ⟨fun q hq => lookup?_set_of_independent hq h, ?_⟩
  intro before segment after hsplit
  rw [Path.set, hsplit] at h
  constructor
  · intro members hobject
    obtain ⟨-, child, hafter⟩ := get?_above_put h hobject rfl
    exact ⟨Table.insert members segment child, hafter, Table.keys_insert members segment child⟩
  · intro items hlist
    obtain ⟨htakes, child, hafter⟩ := get?_above_put h hlist rfl
    obtain ⟨i, hi, hle⟩ := takes_list_iff.1 htakes
    simp only [withChild, opened, hi, Option.getD_some, setItem] at hafter
    refine ⟨i, child, hi, ?_⟩
    obtain hlt | heq := Nat.lt_or_eq_of_le hle
    · exact .inl ⟨hlt, by rwa [if_neg (Nat.ne_of_lt hlt)] at hafter⟩
    · exact .inr ⟨heq, by rwa [if_pos heq] at hafter⟩

def stock : Tree :=
  .object [("name", .text "bar"), ("items", .list [.null])]

def taggedStock : Tree :=
  .object [("name", .text "bar"), ("items", .list [.null, .object [("tag", .text "new")]])]

theorem tag_behind_last_item_changes_only_its_path :
    Path.set "." stock "items.1.tag" (.text "new") = (.ok (), taggedStock) ∧
      Path.lookup? "." taggedStock "items.0" = Path.lookup? "." stock "items.0" ∧
      Path.lookup? "." taggedStock "items.2" = Path.lookup? "." stock "items.2" ∧
      (∃ members, taggedStock.get? [] = some (.object members) ∧
        Table.keys members = ["name", "items"]) ∧
      ∃ item, taggedStock.get? ["items"] = some (.list [.null, item]) := by
  have hset : Path.set "." stock "items.1.tag" (.text "new") = (.ok (), taggedStock) := rfl
  obtain ⟨hframe, habove⟩ := write_changes_only_its_path hset
  obtain ⟨members, hroot, hkeys⟩ := (habove [] "items" ["1", "tag"] rfl).1 _ rfl
  obtain ⟨i, item, hi, ⟨hlt, -⟩ | ⟨-, hitems⟩⟩ :=
    (habove ["items"] "1" ["tag"] rfl).2 [.null] rfl
  · obtain rfl : 1 = i := Option.some.inj (by rw [← hi]; rfl)
    simp at hlt
  · exact ⟨hset, hframe "items.0" (by decide), hframe "items.2" (by decide),
      ⟨members, hroot, hkeys⟩, item, hitems⟩

end RuleChain.Proofs
