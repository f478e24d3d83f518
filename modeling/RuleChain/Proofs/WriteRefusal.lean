import Mathlib.Tactic.Lemma
import RuleChain.Path

/-!
# Refused writes

A write walks down a tree in place and makes missing parents on its way. It fails where a node that
is there refuses the next segment: a scalar refuses every segment, a list all but the indices of its
items and the one behind them. Main statement: a failed write leaves the tree as it was, and the
first node that refuses decides whether a write fails and with which error. What carries this is
that nothing below a parent that was just made can refuse.
-/

namespace RuleChain.Proofs
open RuleChain.Tree

inductive Refuses : Tree → String → WriteError → Prop where
  | scalar {node segment} (hnull : node.kind ≠ .null) (hleaf : node.isContainer = false) :
      Refuses node segment (.notAContainer segment node.kind)
  | noIndex {items segment} (h : Text.readCount? segment.toList = none) :
      Refuses (.list items) segment (.invalidIndex segment)
  | pastEnd {items segment i} (h : Text.readCount? segment.toList = some i)
      (hi : items.length < i) :
      Refuses (.list items) segment (.indexOutOfRange segment items.length)

def Takes (node : Tree) (segment : String) : Prop :=
  ∀ e, ¬Refuses node segment e

/-- The node with another child under a segment that it takes. -/
def withChild (node : Tree) (segment : String) (child : Tree) : Tree :=
  match node.opened with
  | .object members => .object (Table.insert members segment child)
  | .list items => .list (setItem items ((Text.readCount? segment.toList).getD 0) child)
  | other => other

/-- The child under a segment, or null where there is none. -/
def childOrNull (node : Tree) (segment : String) : Tree :=
  (node.child? segment).getD .null

lemma refuses_or_takes (node : Tree) (segment : String) :
    (∃ e, Refuses node segment e) ∨ Takes node segment := by
  by_cases h : ∃ e, Refuses node segment e
  · exact .inl h
  · exact .inr fun e he => h ⟨e, he⟩

lemma takes_null (segment : String) : Takes .null segment := by
  rintro e ⟨⟩
  contradiction

lemma takes_object (members : List (String × Tree)) (segment : String) :
    Takes (.object members) segment := by
  rintro e ⟨⟩
  contradiction

lemma takes_list_iff {items : List Tree} {segment : String} :
    Takes (.list items) segment ↔
      ∃ i, Text.readCount? segment.toList = some i ∧ i ≤ items.length := by
  constructor
  · intro h
    cases hi : Text.readCount? segment.toList with
    | none => exact absurd (.noIndex hi) (h _)
    | some i => exact ⟨i, rfl, Nat.le_of_not_lt fun hlt => h _ (.pastEnd hi hlt)⟩
  · rintro ⟨i, hi, hle⟩ e he
    cases he with
    | scalar hnull hleaf => simp [isContainer] at hleaf
    | noIndex h => simp [hi] at h
    | pastEnd h hlt =>
      obtain rfl : i = _ := Option.some.inj (hi.symm.trans h)
      omega

lemma Refuses.unique {node : Tree} {segment : String} {e e' : WriteError}
    (h : Refuses node segment e) (h' : Refuses node segment e') : e = e' := by
  cases h <;> cases h' <;> simp_all [isContainer]

lemma takes_of_child {node child : Tree} {segment : String} (h : node.child? segment = some child) :
    Takes node segment := by
  cases node with
  | object members => exact takes_object members segment
  | list items =>
    obtain ⟨i, hi, hitem⟩ := Option.bind_eq_some_iff.1 h
    obtain ⟨hlt, -⟩ := List.getElem?_eq_some_iff.1 hitem
    exact takes_list_iff.2 ⟨i, hi, Nat.le_of_lt hlt⟩
  | _ => simp [child?] at h

lemma modifyChild_of_refuses {node : Tree} {segment : String} {e : WriteError}
    (h : Refuses node segment e) (f : Tree → Write) :
    node.modifyChild segment f = (.error e, node) := by
  cases h with
  | scalar hnull hleaf => cases node <;> simp_all [modifyChild, opened, isContainer, kind]
  | noIndex h => simp [modifyChild, opened, slot, h]
  | pastEnd h hi => simp [modifyChild, opened, slot, h, hi]

lemma modifyChild_of_takes {node : Tree} {segment : String} (h : Takes node segment)
    (f : Tree → Write) :
    node.modifyChild segment f =
      ((f (childOrNull node segment)).1,
        withChild node segment (f (childOrNull node segment)).2) := by
  cases node with
  | null => rfl
  | object members => rfl
  | list items =>
    obtain ⟨i, hi, hle⟩ := takes_list_iff.1 h
    simp [modifyChild, withChild, childOrNull, child?, opened, slot, hi, Nat.not_lt.2 hle]
  | bool _ | number _ | text _ => exact absurd (.scalar (by simp [kind]) rfl) (h _)

lemma withChild_of_child {node child : Tree} {segment : String}
    (h : node.child? segment = some child) : withChild node segment child = node := by
  cases node with
  | object members =>
    have hget : Table.get? members segment = some child := h
    simp [withChild, opened, Table.insert_of_get? hget]
  | list items =>
    obtain ⟨i, hi, hitem⟩ := Option.bind_eq_some_iff.1 h
    obtain ⟨hlt, rfl⟩ := List.getElem?_eq_some_iff.1 hitem
    simp [withChild, opened, hi, setItem, Nat.ne_of_lt hlt]
  | _ => simp [child?] at h

@[simp] lemma get?_nil (node : Tree) : node.get? [] = some node := rfl

@[simp] lemma get?_cons (node : Tree) (segment : String) (rest : List String) :
    node.get? (segment :: rest) = (node.child? segment).bind (Tree.get? · rest) := rfl

@[simp] lemma modifyParent_single (change : Tree → String → Write) (segment : String)
    (node : Tree) : modifyParent change [segment] node = change node segment := rfl

@[simp] lemma modifyParent_cons (change : Tree → String → Write) (segment next : String)
    (rest : List String) (node : Tree) :
    modifyParent change (segment :: next :: rest) node =
      node.modifyChild segment fun child => modifyParent change (next :: rest) child.opened := rfl

/-- A change at a segment fails without a trace, and it fails where a node refuses the segment,
save that it passes the nodes that are spared. -/
structure FailsUnless (change : Tree → String → Write) (spared : Tree → Prop) : Prop where
  failed : ∀ {node segment e}, Refuses node segment e → ¬spared node →
    change node segment = (.error e, node)
  done : ∀ {node segment}, (∀ e, Refuses node segment e → spared node) →
    (change node segment).1 = .ok ()

lemma assignChild_failsUnless (value : Tree) : FailsUnless (assignChild value) fun _ => False where
  failed h _ := modifyChild_of_refuses h _
  done h := by rw [assignChild, modifyChild_of_takes h]

lemma removeChild_failsUnless : FailsUnless removeChild fun node => node.kind = .list where
  failed {node segment e} h hspared := by
    cases h with
    | scalar hnull hleaf => cases node <;> simp_all [removeChild, isContainer, kind]
    | noIndex => exact absurd rfl hspared
    | pastEnd => exact absurd rfl hspared
  done {node segment} h := by
    cases node with
    | null => rfl
    | object members => rfl
    | list items => cases hi : Text.readCount? segment.toList <;> simp [removeChild, hi]
    | bool _ | number _ | text _ => cases h _ (.scalar (by simp [kind]) rfl)

section Walk

variable {change : Tree → String → Write} {spared : Tree → Prop}

/-- Nothing refuses below a parent that was just made. -/
lemma modifyParent_empty (hc : FailsUnless change spared) (segments : List String) :
    (modifyParent change segments empty).1 = .ok () := by
  induction segments with
  | nil => rfl
  | cons segment rest ih =>
    cases rest with
    | nil => exact hc.done fun e h => absurd h (takes_object [] segment e)
    | cons next rest =>
      have htakes : Takes empty segment := takes_object [] segment
      rw [modifyParent_cons, modifyChild_of_takes htakes]
      exact ih

lemma childOrNull_cases (node : Tree) (segment : String) :
    (childOrNull node segment = .null ∧
      ∀ child, node.child? segment = some child → child = .null) ∨
    ∃ child, node.child? segment = some child ∧ childOrNull node segment = child ∧
      child.opened = child := by
  unfold childOrNull
  cases h : node.child? segment with
  | none => exact .inl ⟨rfl, by simp⟩
  | some child =>
    cases child with
    | null => exact .inl ⟨rfl, by simp⟩
    | _ => exact .inr ⟨_, rfl, rfl, rfl⟩

theorem modifyParent_error_unchanged (hc : FailsUnless change spared) {segments : List String}
    {d : Tree} {e : WriteError} (h : (modifyParent change segments d).1 = .error e) :
    (modifyParent change segments d).2 = d := by
  induction segments generalizing d with
  | nil => simp [modifyParent] at h
  | cons segment rest ih =>
    cases rest with
    | nil =>
      rw [modifyParent_single] at h ⊢
      by_cases hall : ∀ e, Refuses d segment e → spared d
      · rw [hc.done hall] at h
        cases h
      · obtain ⟨e', hall⟩ := Classical.not_forall.1 hall
        obtain ⟨hrefuses, hspared⟩ := Classical.not_imp.1 hall
        rw [hc.failed hrefuses hspared]
    | cons next rest =>
      obtain ⟨e', hrefuses⟩ | htakes := refuses_or_takes d segment
      · rw [modifyParent_cons, modifyChild_of_refuses hrefuses]
      · rw [modifyParent_cons, modifyChild_of_takes htakes] at h ⊢
        -- the walk fails behind this step, so it has made nothing here: the child was there
        obtain ⟨hnull, -⟩ | ⟨child, hchild, heq, hopened⟩ := childOrNull_cases d segment
        · rw [hnull, opened, modifyParent_empty hc] at h
          cases h
        · rw [heq, hopened] at h ⊢
          simp only [ih h]
          exact withChild_of_child hchild

/-- The walk along some segments through what a tree holds meets a node that refuses the next
segment, with `after` behind it. No node before it on the walk refuses. -/
structure MeetsRefusal (d : Tree) (segments : List String) (node : Tree) (segment : String)
    (after : List String) (e : WriteError) : Prop where
  reached : ∃ before, segments = before ++ segment :: after ∧ d.get? before = some node
  refuses : Refuses node segment e
  first : ∀ before segment' after' node' e', segments = before ++ segment' :: after' →
    d.get? before = some node' → Refuses node' segment' e' → after'.length ≤ after.length

lemma not_meetsRefusal_nil {d node : Tree} {segment : String} {after : List String}
    {e : WriteError} : ¬MeetsRefusal d [] node segment after e := by
  rintro ⟨⟨before, hsplit, -⟩, -, -⟩
  simp at hsplit

lemma meetsRefusal_of_refuses {d node : Tree} {segment segment' : String}
    {rest after : List String} {e e' : WriteError} (h : Refuses d segment e) :
    MeetsRefusal d (segment :: rest) node segment' after e' ↔
      node = d ∧ segment' = segment ∧ after = rest ∧ Refuses d segment e' := by
  constructor
  · rintro ⟨⟨before, hsplit, hreached⟩, hrefuses, -⟩
    cases before with
    | nil => simp_all
    | cons head before =>
      obtain ⟨rfl, -⟩ := List.cons.inj hsplit
      obtain ⟨child, hchild, -⟩ := Option.bind_eq_some_iff.1 hreached
      exact absurd h (takes_of_child hchild e)
  · rintro ⟨rfl, rfl, rfl, hrefuses⟩
    refine ⟨⟨[], rfl, rfl⟩, hrefuses, ?_⟩
    intro before segment' after' node' e' hsplit _ _
    have hlength := congrArg List.length hsplit
    simp only [List.length_cons, List.length_append] at hlength
    omega

lemma meetsRefusal_of_takes {d node : Tree} {segment segment' : String}
    {rest after : List String} {e : WriteError} (h : Takes d segment) :
    MeetsRefusal d (segment :: rest) node segment' after e ↔
      ∃ child, d.child? segment = some child ∧ MeetsRefusal child rest node segment' after e := by
  constructor
  · rintro ⟨⟨before, hsplit, hreached⟩, hrefuses, hfirst⟩
    cases before with
    | nil => simp_all [Takes]
    | cons head before =>
      obtain ⟨rfl, rfl⟩ := List.cons.inj hsplit
      obtain ⟨child, hchild, hreached⟩ := Option.bind_eq_some_iff.1 hreached
      refine ⟨child, hchild, ⟨before, rfl, hreached⟩, hrefuses, ?_⟩
      intro before' s a n e' hsplit hn
      exact hfirst (segment :: before') s a n e' (by rw [hsplit]; rfl) (by simp [hchild, hn])
  · rintro ⟨child, hchild, ⟨before, rfl, hreached⟩, hrefuses, hfirst⟩
    refine ⟨⟨segment :: before, rfl, by simp [hchild, hreached]⟩, hrefuses, ?_⟩
    intro before' s a n e' hsplit hn hrefuses'
    cases before' with
    | nil => simp_all [Takes]
    | cons head before' =>
      simp only [List.cons_append, List.cons.injEq] at hsplit
      obtain ⟨rfl, hsplit⟩ := hsplit
      rw [get?_cons, hchild] at hn
      exact hfirst before' s a n e' hsplit hn hrefuses'

lemma not_meetsRefusal_null {node : Tree} {segment : String} {segments after : List String}
    {e : WriteError} : ¬MeetsRefusal .null segments node segment after e := by
  cases segments with
  | nil => exact not_meetsRefusal_nil
  | cons head rest =>
    rw [meetsRefusal_of_takes (takes_null head)]
    rintro ⟨child, hchild, -⟩
    cases hchild

/-- A walk fails exactly at the first refusal, unless that is at the last segment and the node is
spared there. -/
theorem modifyParent_eq_error_iff (hc : FailsUnless change spared) {segments : List String}
    {d : Tree} {e : WriteError} :
    (modifyParent change segments d).1 = .error e ↔
      ∃ node segment after, MeetsRefusal d segments node segment after e ∧
        (after = [] → ¬spared node) := by
  induction segments generalizing d with
  | nil => simp [modifyParent, not_meetsRefusal_nil]
  | cons segment rest ih =>
    obtain ⟨e', hrefuses⟩ | htakes := refuses_or_takes d segment
    · have hhere : (∃ node segment' after,
          MeetsRefusal d (segment :: rest) node segment' after e ∧
          (after = [] → ¬spared node)) ↔ e' = e ∧ (rest = [] → ¬spared d) := by
        simp only [meetsRefusal_of_refuses hrefuses]
        constructor
        · rintro ⟨node, segment', after, ⟨rfl, rfl, rfl, h⟩, hspared⟩
          exact ⟨hrefuses.unique h, hspared⟩
        · rintro ⟨rfl, hspared⟩
          exact ⟨d, segment, rest, ⟨rfl, rfl, rfl, hrefuses⟩, hspared⟩
      rw [hhere]
      cases rest with
      | nil =>
        rw [modifyParent_single]
        by_cases hspared : spared d
        · simp [hc.done fun _ _ => hspared, hspared]
        · simp [hc.failed hrefuses hspared, hspared]
      | cons next rest => simp [modifyChild_of_refuses hrefuses]
    · simp only [meetsRefusal_of_takes htakes]
      cases rest with
      | nil =>
        rw [modifyParent_single, hc.done fun e he => absurd he (htakes e)]
        simp [not_meetsRefusal_nil]
      | cons next rest =>
        rw [modifyParent_cons, modifyChild_of_takes htakes]
        obtain ⟨hnull, hchild⟩ | ⟨child, hchild, heq, hopened⟩ := childOrNull_cases d segment
        · rw [hnull, opened, modifyParent_empty hc]
          constructor
          · rintro ⟨⟩
          · rintro ⟨node, segment', after, ⟨child, hsome, hmeets⟩, -⟩
            obtain rfl := hchild child hsome
            exact absurd hmeets not_meetsRefusal_null
        · rw [heq, hopened]
          simp [ih, hchild]

end Walk

lemma set_error_unchanged {delimiter p : String} {d v : Tree} {e : WriteError}
    (h : (Path.set delimiter d p v).1 = .error e) : (Path.set delimiter d p v).2 = d :=
  modifyParent_error_unchanged (assignChild_failsUnless v) h

lemma unset_error_unchanged {delimiter p : String} {d : Tree} {e : WriteError}
    (h : (Path.unset delimiter d p).1 = .error e) : (Path.unset delimiter d p).2 = d :=
  modifyParent_error_unchanged removeChild_failsUnless h

/-- A write that fails leaves the tree as it was: no parent made, no null replaced, no list grown.
It fails exactly where its walk meets a node that refuses the next segment, and the first such node
gives the error. A removal is spared only where the last segment addresses a list. -/
theorem write_fails_without_trace_at_first_refusal (delimiter : String) (d : Tree) (p : String)
    (v : Tree) (e : WriteError) :
    ((Path.set delimiter d p v).1 = .error e → (Path.set delimiter d p v).2 = d) ∧
    ((Path.unset delimiter d p).1 = .error e → (Path.unset delimiter d p).2 = d) ∧
    ((Path.set delimiter d p v).1 = .error e ↔
      ∃ node segment after,
        MeetsRefusal d (Path.segments delimiter p) node segment after e) ∧
    ((Path.unset delimiter d p).1 = .error e ↔
      ∃ node segment after,
        MeetsRefusal d (Path.segments delimiter p) node segment after e ∧
        (after = [] → node.kind ≠ .list)) := by
  refine ⟨set_error_unchanged, unset_error_unchanged, ?_, ?_⟩
  · simpa [Path.set] using modifyParent_eq_error_iff (assignChild_failsUnless v)
  · exact modifyParent_eq_error_iff removeChild_failsUnless

end RuleChain.Proofs
