import Mathlib.Tactic.Lemma
import RuleChain.Proofs.FlattenExpand
import RuleChain.Proofs.WriteRemoval

/-!
# Colliding keys

A flat table of scalars may hold a key that leads to or through the place of another. What becomes
of it depends on the order: a key that leads below an earlier one meets the scalar there, and the
expansion fails; a key that leads above earlier ones takes their places with them. Main statement:
the expansion fails exactly for the former, and otherwise every key is read back that no later key
stands above. After each step the scalars of the tree are the values that were put and whose places
were not taken since.
-/

namespace RuleChain.Proofs
open RuleChain.Tree

/-- The second path goes on where the first ends. -/
def ProperPrefix (p q : List String) : Prop :=
  p <+: q ∧ p ≠ q

instance decidableProperPrefix (p q : List String) : Decidable (ProperPrefix p q) :=
  inferInstanceAs (Decidable (_ ∧ _))

lemma properPrefix_iff {p q : List String} :
    ProperPrefix p q ↔ ∃ segment after, q = p ++ segment :: after := by
  constructor
  · rintro ⟨⟨rest, rfl⟩, hne⟩
    cases rest with
    | nil => simp at hne
    | cons segment after => exact ⟨segment, after, rfl⟩
  · rintro ⟨segment, after, rfl⟩
    exact ⟨List.prefix_append p _, by simp⟩

/-- What goes on behind a path goes on behind every path that leads to it. -/
lemma ProperPrefix.of_prefix {p q r : List String} (hp : p <+: q) (hq : ProperPrefix q r) :
    ProperPrefix p r := by
  refine ⟨hp.trans hq.1, ?_⟩
  rintro rfl
  exact hq.2 (hq.1.eq_of_length_le hp.length_le)

/-- A value that holds no children and does not give way to a parent. -/
def IsScalar (node : Tree) : Prop :=
  node.kind ≠ .null ∧ node.isContainer = false

instance decidableIsScalar (node : Tree) : Decidable (IsScalar node) :=
  inferInstanceAs (Decidable (_ ∧ _))

/-- A tree of objects and scalars. -/
def ObjectTree : Tree → Prop :=
  Everywhere fun node => node.kind ≠ .null ∧ node.kind ≠ .list

/-- The value at some segments is a scalar. -/
def ScalarAt (d : Tree) (segments : List String) (node : Tree) : Prop :=
  d.get? segments = some node ∧ IsScalar node

section Trees

variable {d node : Tree} {segment : String}

lemma kind_empty_ne : empty.kind ≠ .null ∧ empty.kind ≠ .list := by
  simp [Tree.empty, kind]

lemma objectTree_of_scalar (h : IsScalar node) : ObjectTree node := by
  obtain ⟨hnull, hleaf⟩ := h
  cases node with
  | null => exact absurd rfl hnull
  | list _ | object _ => cases hleaf
  | bool _ | number _ | text _ => exact everywhere_of_leaf rfl (by simp [kind])

lemma object_of_takes (hd : d.kind ≠ .null ∧ d.kind ≠ .list) (h : Takes d segment) :
    ∃ members, d = .object members := by
  cases d with
  | null => exact absurd rfl hd.1
  | list _ => exact absurd rfl hd.2
  | object members => exact ⟨members, rfl⟩
  | bool _ | number _ | text _ => exact absurd (.scalar (by simp [kind]) rfl) (h _)

lemma get?_of_scalar (h : IsScalar node) (segment : String) (rest : List String) :
    node.get? (segment :: rest) = none := by
  obtain ⟨-, hleaf⟩ := h
  cases node with
  | list _ | object _ => cases hleaf
  | _ => rfl

end Trees

/-- A node that is reached and refuses the next segment is the first one to refuse. -/
lemma meetsRefusal_of_get? {d node : Tree} {before after : List String} {segment : String}
    {e : WriteError} (hnode : d.get? before = some node) (h : Refuses node segment e) :
    MeetsRefusal d (before ++ segment :: after) node segment after e := by
  induction before generalizing d with
  | nil =>
    obtain rfl : d = node := Option.some.inj hnode
    exact (meetsRefusal_of_refuses h).2 ⟨rfl, rfl, rfl, h⟩
  | cons head before ih =>
    obtain ⟨child, hchild, hreached⟩ := Option.bind_eq_some_iff.1 hnode
    exact (meetsRefusal_of_takes (takes_of_child hchild)).2 ⟨child, hchild, ih hreached⟩

section Step

variable {d d' value : Tree} {path : List String} (hd : ObjectTree d)

include hd

/-- A write fails exactly where a scalar stands on its way. -/
theorem put_eq_error_iff (value : Tree) {e : WriteError} :
    (modifyParent (assignChild value) path d).1 = .error e ↔
      ∃ before segment after node, path = before ++ segment :: after ∧ ScalarAt d before node ∧
        e = .notAContainer segment node.kind := by
  rw [modifyParent_eq_error_iff (assignChild_failsUnless value)]
  constructor
  · rintro ⟨node, segment, after, ⟨⟨before, hpath, hnode⟩, hrefuses, -⟩, -⟩
    obtain ⟨⟨-, hlist⟩, -⟩ := everywhere_iff.1 (everywhere_of_get? hd hnode)
    cases hrefuses with
    | scalar hnull hleaf => exact ⟨before, segment, after, node, hpath, ⟨hnode, hnull, hleaf⟩, rfl⟩
    | noIndex _ => exact absurd rfl hlist
    | pastEnd _ _ => exact absurd rfl hlist
  · rintro ⟨before, segment, after, node, rfl, ⟨hnode, hnull, hleaf⟩, rfl⟩
    exact ⟨node, segment, after, meetsRefusal_of_get? hnode (.scalar hnull hleaf), fun _ => id⟩

theorem exists_put_iff (value : Tree) :
    (∃ d', modifyParent (assignChild value) path d = (.ok (), d')) ↔
      ∀ before node, ScalarAt d before node → ¬ProperPrefix before path := by
  constructor
  · rintro ⟨d', h⟩ before node hnode hbefore
    obtain ⟨segment, after, hpath⟩ := properPrefix_iff.1 hbefore
    have herror := (put_eq_error_iff hd value).2
      ⟨before, segment, after, node, hpath, hnode, rfl⟩
    rw [h] at herror
    cases herror
  · intro hfree
    rcases h : modifyParent (assignChild value) path d with ⟨e | ⟨⟨⟩⟩, d'⟩
    · obtain ⟨before, segment, after, node, hpath, hnode, -⟩ :=
        (put_eq_error_iff hd value).1 (congrArg Prod.fst h)
      exact absurd (properPrefix_iff.2 ⟨segment, after, hpath⟩) (hfree before node hnode)
    · exact ⟨d', rfl⟩

/-- A write in a tree of objects leaves every path alone that leads neither to its place nor through
it, also where the two part at numerals of one index. -/
theorem get?_of_put_of_incomparable
    (h : modifyParent (assignChild value) path d = (.ok (), d')) {q : List String}
    (hq : Incomparable path q) : d'.get? q = d.get? q := by
  induction path generalizing d d' q with
  | nil => exact absurd List.nil_prefix hq.1
  | cons segment rest ih =>
    cases q with
    | nil => exact absurd List.nil_prefix hq.2
    | cons other q =>
      obtain ⟨child, htakes, rfl, hbelow⟩ := put_cons_eq_ok h
      by_cases hother : other = segment
      · subst hother
        obtain ⟨rfl, -⟩ | ⟨-, hchild⟩ := hbelow
        · exact absurd (by simp) hq.1
        · cases q with
          | nil => exact absurd (by simp) hq.2
          | cons next q =>
            rw [get?_cons, child?_withChild_self htakes, ← get?_childOrNull_opened]
            exact ih (everywhere_below kind_empty_ne hd other) hchild (incomparable_cons_iff.1 hq)
      · obtain ⟨members, rfl⟩ := object_of_takes (everywhere_iff.1 hd).1 htakes
        have hwritten : withChild (.object members) segment child =
            .object (Table.insert members segment child) := rfl
        rw [get?_cons, get?_cons, hwritten, child?, child?, Table.get?_insert,
          if_neg (Ne.symm hother)]

lemma objectTree_put (hvalue : ObjectTree value)
    (h : modifyParent (assignChild value) path d = (.ok (), d')) : ObjectTree d' := by
  refine everywhere_put kind_empty_ne (fun node segment child htakes hnode => ?_) hd hvalue h
  obtain ⟨members, rfl⟩ := object_of_takes hnode htakes
  simp [withChild, opened, kind]

/-- After a write the scalars are the one that was put and those that are not at or below its
place. -/
theorem scalarAt_put_iff (hvalue : IsScalar value) (hpath : path ≠ [])
    (h : modifyParent (assignChild value) path d = (.ok (), d')) {q : List String} {node : Tree} :
    ScalarAt d' q node ↔ q = path ∧ node = value ∨ ScalarAt d q node ∧ ¬path <+: q := by
  by_cases hbelow : path <+: q
  · obtain ⟨rest, rfl⟩ := hbelow
    have hget : d'.get? (path ++ rest) = value.get? rest := by
      rw [get?_append, get?_of_put hpath h]
      rfl
    unfold ScalarAt
    rw [hget]
    cases rest with
    | nil =>
      rw [List.append_nil]
      constructor
      · rintro ⟨hnode, -⟩
        exact .inl ⟨rfl, (Option.some.inj hnode).symm⟩
      · rintro (⟨-, rfl⟩ | ⟨-, hnot⟩)
        · exact ⟨rfl, hvalue⟩
        · exact absurd List.prefix_rfl hnot
    | cons segment rest => simp [get?_of_scalar hvalue]
  · have hne : q ≠ path := by
      rintro rfl
      exact hbelow List.prefix_rfl
    by_cases habove : q <+: path
    · -- the write has passed the node at q, which is a container and was no scalar before
      obtain ⟨parent, hparent, hcontainer⟩ := container_above_put h habove hne
      have hafter : ¬ScalarAt d' q node := by
        rintro ⟨hnode, -, hleaf⟩
        obtain rfl : parent = node := Option.some.inj (hparent.symm.trans hnode)
        rw [hleaf] at hcontainer
        cases hcontainer
      have hbefore : ¬ScalarAt d q node := fun hnode =>
        (exists_put_iff hd value).1 ⟨d', h⟩ q node hnode ⟨habove, hne⟩
      simp [hafter, hbefore, hne]
    · have hframe : d'.get? q = d.get? q := get?_of_put_of_incomparable hd h ⟨hbelow, habove⟩
      simp [ScalarAt, hframe, hbelow, hne]

end Step

/-- A value is put at some segments, and nothing is put at or above them later. -/
def Survives (leaves : List (List String × Tree)) (q : List String) (node : Tree) : Prop :=
  ∃ before after, leaves = before ++ (q, node) :: after ∧ ∀ later ∈ after, ¬later.1 <+: q

lemma survives_cons_iff {leaf : List String × Tree} {leaves : List (List String × Tree)}
    {q : List String} {node : Tree} :
    Survives (leaf :: leaves) q node ↔
      (leaf = (q, node) ∧ ∀ later ∈ leaves, ¬later.1 <+: q) ∨ Survives leaves q node := by
  constructor
  · rintro ⟨before, after, hsplit, hlater⟩
    cases before with
    | nil =>
      obtain ⟨rfl, rfl⟩ := List.cons.inj hsplit
      exact .inl ⟨rfl, hlater⟩
    | cons first before =>
      obtain ⟨rfl, rfl⟩ := List.cons.inj hsplit
      exact .inr ⟨before, after, rfl, hlater⟩
  · rintro (⟨rfl, hlater⟩ | ⟨before, after, rfl, hlater⟩)
    · exact ⟨[], leaves, rfl, hlater⟩
    · exact ⟨leaf :: before, after, rfl, hlater⟩

section Run

variable {leaves : List (List String × Tree)} {d : Tree} (hd : ObjectTree d)
variable (hvalues : ∀ leaf ∈ leaves, IsScalar leaf.2) (hpaths : ∀ leaf ∈ leaves, leaf.1 ≠ [])

include hd hvalues hpaths

/-- After some writes the scalars are those that were put and survive, and those that were there
and were not taken. -/
theorem scalarAt_putAll_iff {d' : Tree} (h : putAll leaves d = .ok d') {q : List String}
    {node : Tree} :
    ScalarAt d' q node ↔
      Survives leaves q node ∨ ScalarAt d q node ∧ ∀ leaf ∈ leaves, ¬leaf.1 <+: q := by
  induction leaves generalizing d with
  | nil =>
    obtain rfl : d = d' := Except.ok.inj h
    simp [Survives]
  | cons leaf leaves ih =>
    obtain ⟨next, hput, hrest⟩ := putAll_cons_eq_ok.1 h
    obtain ⟨hvalue, hvalues⟩ := List.forall_mem_cons.1 hvalues
    obtain ⟨hpath, hpaths⟩ := List.forall_mem_cons.1 hpaths
    have hnext : ObjectTree next := objectTree_put hd (objectTree_of_scalar hvalue) hput
    rw [ih hnext hvalues hpaths hrest, scalarAt_put_iff hd hvalue hpath hput, survives_cons_iff,
      List.forall_mem_cons]
    have hleaf : leaf = (q, node) ↔ q = leaf.1 ∧ node = leaf.2 := by
      rw [Prod.ext_iff]
      simp only [eq_comm]
    rw [hleaf]
    tauto

/-- Some values can be put one after another unless a path leads below an earlier one or below a
scalar that is there. -/
theorem exists_putAll_iff :
    (∃ d', putAll leaves d = .ok d') ↔
      leaves.Pairwise (fun leaf later => ¬ProperPrefix leaf.1 later.1) ∧
        ∀ leaf ∈ leaves, ∀ q node, ScalarAt d q node → ¬ProperPrefix q leaf.1 := by
  induction leaves generalizing d with
  | nil => simp [putAll]
  | cons leaf leaves ih =>
    obtain ⟨hvalue, hvalues⟩ := List.forall_mem_cons.1 hvalues
    obtain ⟨hpath, hpaths⟩ := List.forall_mem_cons.1 hpaths
    simp only [putAll_cons_eq_ok, List.pairwise_cons, List.forall_mem_cons]
    constructor
    · rintro ⟨d', next, hput, hrest⟩
      have hnext : ObjectTree next := objectTree_put hd (objectTree_of_scalar hvalue) hput
      obtain ⟨hpairwise, hfree⟩ := (ih hnext hvalues hpaths).1 ⟨d', hrest⟩
      have hfirst : ∀ later ∈ leaves, ¬ProperPrefix leaf.1 later.1 := fun later hlater =>
        hfree later hlater leaf.1 leaf.2
          ((scalarAt_put_iff hd hvalue hpath hput).2 (.inl ⟨rfl, rfl⟩))
      refine ⟨⟨hfirst, hpairwise⟩, (exists_put_iff hd leaf.2).1 ⟨next, hput⟩, ?_⟩
      intro later hlater q node hnode hq
      by_cases hbelow : leaf.1 <+: q
      · exact hfirst later hlater (hq.of_prefix hbelow)
      · exact hfree later hlater q node
          ((scalarAt_put_iff hd hvalue hpath hput).2 (.inr ⟨hnode, hbelow⟩)) hq
    · rintro ⟨⟨hfirst, hpairwise⟩, hhere, hfree⟩
      obtain ⟨next, hput⟩ := (exists_put_iff hd leaf.2).2 hhere
      have hnext : ObjectTree next := objectTree_put hd (objectTree_of_scalar hvalue) hput
      obtain ⟨d', hrest⟩ := (ih hnext hvalues hpaths).2 ⟨hpairwise, by
        intro later hlater q node hnode
        obtain ⟨rfl, -⟩ | ⟨hnode, -⟩ := (scalarAt_put_iff hd hvalue hpath hput).1 hnode
        · exact hfirst later hlater
        · exact hfree later hlater q node hnode⟩
      exact ⟨d', next, hput, hrest⟩

lemma objectTree_putAll {d' : Tree} (h : putAll leaves d = .ok d') : ObjectTree d' := by
  induction leaves generalizing d with
  | nil =>
    obtain rfl : d = d' := Except.ok.inj h
    exact hd
  | cons leaf leaves ih =>
    obtain ⟨next, hput, hrest⟩ := putAll_cons_eq_ok.1 h
    obtain ⟨hvalue, hvalues⟩ := List.forall_mem_cons.1 hvalues
    obtain ⟨-, hpaths⟩ := List.forall_mem_cons.1 hpaths
    exact ih (objectTree_put hd (objectTree_of_scalar hvalue) hput) hvalues hpaths hrest

end Run

/-- Writes that fail do so at one of them, on the tree that those before it made. -/
lemma exists_refused_of_putAll {leaves : List (List String × Tree)} {d : Tree} {e : WriteError}
    (h : putAll leaves d = .error e) :
    ∃ before later after next, leaves = before ++ later :: after ∧ putAll before d = .ok next ∧
      (modifyParent (assignChild later.2) later.1 next).1 = .error e := by
  induction leaves generalizing d with
  | nil => cases h
  | cons leaf leaves ih =>
    rcases hput : modifyParent (assignChild leaf.2) leaf.1 d with ⟨e' | ⟨⟨⟩⟩, next⟩
    · rw [putAll, hput] at h
      obtain rfl : e' = e := Except.error.inj h
      exact ⟨[], leaf, leaves, d, rfl, rfl, by rw [hput]⟩
    · rw [putAll, hput] at h
      obtain ⟨before, later, after, reached, rfl, hbefore, herror⟩ := ih h
      exact ⟨leaf :: before, later, after, reached, rfl,
        putAll_cons_eq_ok.2 ⟨next, hput, hbefore⟩, herror⟩

lemma objectTree_empty : ObjectTree empty :=
  everywhere_of_leaf rfl kind_empty_ne

lemma not_scalarAt_empty (q : List String) (node : Tree) : ¬ScalarAt empty q node := by
  rintro ⟨hnode, -, hleaf⟩
  cases q with
  | nil =>
    obtain rfl : empty = node := Option.some.inj hnode
    cases hleaf
  | cons segment rest => cases hnode

/-- The error of writes that begin with an empty object names the segment behind the path of an
earlier write and the kind of what was put there. -/
lemma collision_of_putAll_eq_error {leaves : List (List String × Tree)} {e : WriteError}
    (hvalues : ∀ leaf ∈ leaves, IsScalar leaf.2) (hpaths : ∀ leaf ∈ leaves, leaf.1 ≠ [])
    (h : putAll leaves empty = .error e) :
    ∃ leaf later segment after, [leaf, later].Sublist leaves ∧
      later.1 = leaf.1 ++ segment :: after ∧ e = .notAContainer segment leaf.2.kind := by
  obtain ⟨before, later, after, next, rfl, hbefore, herror⟩ := exists_refused_of_putAll h
  rw [List.forall_mem_append] at hvalues hpaths
  have hnext : ObjectTree next :=
    objectTree_putAll objectTree_empty hvalues.1 hpaths.1 hbefore
  obtain ⟨q, segment, below, node, hpath, hnode, rfl⟩ := (put_eq_error_iff hnext later.2).1 herror
  obtain ⟨first, rest, rfl, -⟩ | ⟨hempty, -⟩ :=
    (scalarAt_putAll_iff objectTree_empty hvalues.1 hpaths.1 hbefore).1 hnode
  · refine ⟨(q, node), later, segment, below, ?_, hpath, rfl⟩
    have hfirst : [(q, node)].Sublist (first ++ (q, node) :: rest) := by simp
    have hlater : [later].Sublist (later :: after) := by simp
    exact hfirst.append hlater
  · exact absurd hempty (not_scalarAt_empty q node)

/-- A flat table of scalars fails to expand exactly if a key leads below one that stands before it,
and the error then names the segment behind such an earlier key and the kind of its value. When it
expands, every key that no later key leads above is found with its value. -/
theorem expand_fails_below_earlier_keys (delimiter : String) {flat : Table Tree}
    (hkeys : (Table.keys flat).Nodup) (hvalues : ∀ entry ∈ flat, IsScalar entry.2) :
    ((∃ e, Path.expand delimiter flat = .error e) ↔
      ∃ entry later, [entry, later].Sublist flat ∧
        ProperPrefix (Path.segments delimiter entry.1) (Path.segments delimiter later.1)) ∧
    (∀ e, Path.expand delimiter flat = .error e →
      ∃ entry later segment after, [entry, later].Sublist flat ∧
        Path.segments delimiter later.1 = Path.segments delimiter entry.1 ++ segment :: after ∧
        e = .notAContainer segment entry.2.kind) ∧
    ∀ nested, Path.expand delimiter flat = .ok nested → ∀ entry ∈ flat,
      (∀ later, [entry, later].Sublist flat →
        ¬ProperPrefix (Path.segments delimiter later.1) (Path.segments delimiter entry.1)) →
      Path.lookup? delimiter nested entry.1 = some entry.2 := by
  let leafOf : String × Tree → List String × Tree := fun entry =>
    (Path.segments delimiter entry.1, entry.2)
  have hleaves : ∀ leaf ∈ flat.map leafOf, IsScalar leaf.2 := List.forall_mem_map.2 hvalues
  have hpaths : ∀ leaf ∈ flat.map leafOf, leaf.1 ≠ [] :=
    List.forall_mem_map.2 fun entry _ => segments_ne_nil delimiter entry.1
  have hexpand : Path.expand delimiter flat = putAll (flat.map leafOf) empty :=
    setAll_eq_putAll delimiter flat empty
  rw [hexpand]
  refine ⟨?_, ?_, ?_⟩
  · have hok := exists_putAll_iff objectTree_empty hleaves hpaths
    simp only [not_scalarAt_empty, false_implies, implies_true, and_true] at hok
    rw [List.pairwise_map, List.pairwise_iff_forall_sublist] at hok
    have herror : (∃ e, putAll (flat.map leafOf) empty = .error e) ↔
        ¬∃ d', putAll (flat.map leafOf) empty = .ok d' := by
      cases putAll (flat.map leafOf) empty <;> simp
    rw [herror, hok]
    simp only [not_forall, not_not, exists_prop, leafOf]
  · intro e he
    obtain ⟨leaf, later, segment, after, hsublist, hpath, rfl⟩ :=
      collision_of_putAll_eq_error hleaves hpaths he
    obtain ⟨entries, hentries, hmap⟩ := List.sublist_map_iff.1 hsublist
    obtain ⟨entry, rest, rfl, rfl, hrest⟩ := List.map_eq_cons_iff.1 hmap.symm
    obtain ⟨other, _, rfl, rfl, hnil⟩ := List.map_eq_cons_iff.1 hrest
    obtain rfl := List.map_eq_nil_iff.1 hnil
    exact ⟨entry, other, segment, after, hentries, hpath, rfl⟩
  · intro nested hnested entry hentry hlater
    obtain ⟨before, after, rfl⟩ := List.append_of_mem hentry
    have hsurvives : Survives ((before ++ entry :: after).map leafOf)
        (Path.segments delimiter entry.1) entry.2 := by
      refine ⟨before.map leafOf, after.map leafOf, by simp [leafOf], ?_⟩
      refine List.forall_mem_map.2 fun other hother hstart => ?_
      have hsublist : [entry, other].Sublist (before ++ entry :: after) :=
        (List.cons_sublist_cons.2 (List.singleton_sublist.2 hother)).trans
          (List.sublist_append_right before _)
      apply hlater other hsublist
      refine ⟨hstart, fun hsame => ?_⟩
      -- keys with the same segments are the same key
      have hkey : other.1 = entry.1 := by
        rw [← join_segments delimiter other.1, ← join_segments delimiter entry.1]
        exact congrArg (Text.join delimiter) hsame
      have hpair := (hsublist.map Prod.fst).nodup hkeys
      simp [hkey] at hpair
    obtain ⟨hfound, -⟩ := (scalarAt_putAll_iff objectTree_empty hleaves hpaths hnested).2
      (.inl hsurvives)
    exact hfound

/-- Two keys spell one index, and the last key leads above the first. -/
def prices : Table Tree :=
  [("ale.pint", .bool true), ("wine.1", .text "red"), ("wine.01", .text "white"),
    ("ale", .text "out")]

def nestedPrices : Tree :=
  .object [("ale", .text "out"), ("wine", .object [("1", .text "red"), ("01", .text "white")])]

theorem prices_expand_unless_half_of_ale_follows :
    (Table.keys prices).Nodup ∧ (∀ entry ∈ prices, IsScalar entry.2) ∧
      Path.expand "." prices = .ok nestedPrices ∧
      Path.lookup? "." nestedPrices "wine.01" = some (.text "white") ∧
      Path.lookup? "." nestedPrices "ale" = some (.text "out") ∧
      ∃ e, Path.expand "." (prices ++ [("ale.half", .bool true)]) = .error e := by
  have hkeys : (Table.keys prices).Nodup := by decide
  have hvalues : ∀ entry ∈ prices, IsScalar entry.2 := by decide
  have hexpand : Path.expand "." prices = .ok nestedPrices := rfl
  obtain ⟨-, -, hfound⟩ := expand_fails_below_earlier_keys "." hkeys hvalues
  have hlongKeys : (Table.keys (prices ++ [("ale.half", .bool true)])).Nodup := by decide
  have hlongValues : ∀ entry ∈ prices ++ [("ale.half", .bool true)], IsScalar entry.2 := by decide
  obtain ⟨hfails, -, -⟩ := expand_fails_below_earlier_keys "." hlongKeys hlongValues
  have hwine : ∀ later ∈ prices, ¬ProperPrefix (Path.segments "." later.1) ["wine", "01"] := by
    decide
  have hale : ∀ later ∈ prices, ¬ProperPrefix (Path.segments "." later.1) ["ale"] := by decide
  refine ⟨hkeys, hvalues, hexpand, ?_, ?_, hfails.2 ?_⟩
  · exact hfound _ hexpand ("wine.01", .text "white") (by simp [prices]) fun later hlater =>
      hwine later (hlater.subset (by simp))
  · exact hfound _ hexpand ("ale", .text "out") (by simp [prices]) fun later hlater =>
      hale later (hlater.subset (by simp))
  · exact ⟨("ale", .text "out"), ("ale.half", .bool true),
      List.sublist_append_right (prices.take 3) _, by decide⟩

end RuleChain.Proofs
