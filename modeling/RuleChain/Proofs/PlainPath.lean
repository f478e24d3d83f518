import RuleChain.Proofs.Branches
import RuleChain.Proofs.SplitJoin
import RuleChain.Proofs.WildcardMatches

/-!
# Paths without wildcard

A path can be read in two ways: by one descent along its segments, or as a pattern whose matches are
collected among all children at each depth. Main statement: where no segment is the wildcard or
carries a plus sign, and no child of the root bears a path of several segments as its key, both give
the same value. At each depth a plain segment has at most one match, the child that the descent takes.
-/

namespace RuleChain.Proofs

/-- A segment that is no wildcard and starts with no plus sign. -/
structure PlainSegment (wildcard segment : String) : Prop where
  ne_wildcard : segment ≠ wildcard
  no_plus : segment.toList.head? ≠ some '+'

/-- Without a plus sign in front, the counts are the plain indices. -/
lemma plainIndex?_eq_readCount? {segment : String} (h : segment.toList.head? ≠ some '+') :
    plainIndex? segment = Text.readCount? segment.toList := by
  unfold plainIndex?
  split
  · rfl
  · next hnumeral =>
    rw [Text.readCount?, if_neg h, Text.readDigits?, if_neg hnumeral]
    rfl

section Children

/-- Among members with distinct keys, those under a key are the one that is looked up. -/
lemma values_of_key {members : List (String × Tree)} (h : (Table.keys members).Nodup)
    (key : String) :
    (members.filter fun member => member.1 == key).map Prod.snd =
      (Table.get? members key).toList := by
  induction members with
  | nil => rfl
  | cons member members ih =>
    obtain ⟨k, value⟩ := member
    obtain ⟨hfirst, hrest⟩ := List.nodup_cons.1 h
    by_cases hk : k = key
    · subst hk
      have hnone : Table.get? members k = none := Table.get?_eq_none_iff.2 hfirst
      have hothers := ih hrest
      rw [hnone] at hothers
      simp [Table.get?, List.map_eq_nil_iff.1 hothers]
    · simpa [Table.get?, hk] using ih hrest

/-- The item that is numbered with an index, counted from some number on, is the item there. -/
lemma items_of_index (items : List Tree) (start n : Nat) :
    ((items.zipIdx start).filter fun entry => start + n == entry.2).map Prod.fst =
      items[n]?.toList := by
  induction items generalizing start n with
  | nil => rfl
  | cons item items ih =>
    rw [List.zipIdx_cons]
    cases n with
    | zero =>
      have hlater : (items.zipIdx (start + 1)).filter (fun entry => start == entry.2) = [] := by
        rw [List.filter_eq_nil_iff]
        intro entry hentry
        have hle : start + 1 ≤ entry.2 := List.le_snd_of_mem_zipIdx hentry
        simp only [beq_iff_eq]
        omega
      simp [hlater]
    | succ n =>
      have hnumber : start + (n + 1) = start + 1 + n := by omega
      have hne : start + 1 + n ≠ start := by omega
      simpa [hnumber, hne] using ih (start + 1) n

end Children

section Resolvers

variable {tokens : PathTokens}

/-- A segment that is no wildcard matches the child that it names and no other. -/
lemma matching_children_of_ne {segment : String} (hne : segment ≠ tokens.wildcard) {node : Tree}
    (hkeys : DistinctKeys node) :
    (node.children.filter fun child => tokens.segmentMatches segment child.1).map Prod.snd =
      (PathTokens.exactChild? node segment).toList := by
  have hwildcard : (segment == tokens.wildcard) = false := by simpa using hne
  cases node with
  | object members =>
    have hdistinct : (Table.keys members).Nodup := (distinctKeys_object_iff.1 hkeys).1
    have hmember := values_of_key hdistinct segment
    simpa [Tree.children, PathTokens.exactChild?, List.filter_map, Function.comp_def,
      PathTokens.segmentMatches, hwildcard] using hmember
  | list items =>
    have hchildren : Tree.children (.list items) =
        items.zipIdx.map fun entry => (.index entry.2, entry.1) := List.mapIdx_eq_zipIdx_map
    rw [hchildren, PathTokens.exactChild?]
    cases hindex : plainIndex? segment with
    | none =>
      simp [List.filter_map, Function.comp_def, PathTokens.segmentMatches, hwildcard, hindex]
    | some n =>
      have hitem := items_of_index items 0 n
      simpa [List.filter_map, Function.comp_def, PathTokens.segmentMatches, hwildcard, hindex]
        using hitem
  | _ => rfl

lemma exactChild?_eq_child? {path : String} (hplus : path.toList.head? ≠ some '+') (data : Tree) :
    PathTokens.exactChild? data path = data.child? path := by
  cases data with
  | list items => rw [PathTokens.exactChild?, plainIndex?_eq_readCount? hplus, Tree.child?]
  | _ => rfl

/-- A plain segment matches the child that it addresses and no other. -/
lemma matching_children {segment : String} (hplain : PlainSegment tokens.wildcard segment)
    {node : Tree} (hkeys : DistinctKeys node) :
    (node.children.filter fun child => tokens.segmentMatches segment child.1).map Prod.snd =
      (node.child? segment).toList := by
  rw [matching_children_of_ne hplain.ne_wildcard hkeys, exactChild?_eq_child? hplain.no_plus]

/-- The matches of plain segments are what the descent along them finds. -/
lemma matching_eq_get? {segments : List String}
    (hplain : ∀ segment ∈ segments, PlainSegment tokens.wildcard segment) {node : Tree}
    (hkeys : DistinctKeys node) :
    tokens.matching segments node = (node.get? segments).toList := by
  induction segments generalizing node with
  | nil => rfl
  | cons segment rest ih =>
    have hstep := matching_children (hplain segment (by simp)) hkeys
    rw [PathTokens.matching, ← List.flatMap_map, hstep, Tree.get?]
    cases hchild : node.child? segment with
    | none => rfl
    | some child =>
      have hbelow : DistinctKeys child := distinctKeys_of_child? hkeys hchild
      have hrest := ih (fun segment h => hplain segment (by simp [h])) hbelow
      simpa using hrest

/-- Where no child of the root bears the whole path as its key, a plain path resolves as the descent
along its segments does. -/
lemma resolve_of_no_exactChild {data : Tree} (hkeys : DistinctKeys data) {path : String}
    (hpath : path ≠ tokens.wildcard)
    (hplain : ∀ segment ∈ Path.segments tokens.delimiter path, PlainSegment tokens.wildcard segment)
    (hnone : PathTokens.exactChild? data path = none) (default : Tree) :
    tokens.resolve data path default = Path.lookupD tokens.delimiter data path default := by
  have hsegments : Path.segments tokens.delimiter path = Text.split tokens.delimiter path :=
    if_neg tokens.delimiter_ne
  have hmatching := matching_eq_get? hplain hkeys
  rw [Path.lookupD, Path.lookup?]
  simp only [PathTokens.resolve, hnone, if_neg hpath, ← hsegments, hmatching]
  cases data.get? (Path.segments tokens.delimiter path) <;> rfl

end Resolvers

/-- A path whose segments are plain resolves to the value at the path, or to the default where there
is none, just as a look-up by one descent gives it; a child of the root that bears a path of several
segments as its key would come first. -/
theorem plain_path_resolves_to_value_at_path (tokens : PathTokens) {data : Tree}
    (hkeys : DistinctKeys data) {path : String} (hpath : path ≠ tokens.wildcard)
    (hplain : ∀ segment ∈ Path.segments tokens.delimiter path, PlainSegment tokens.wildcard segment)
    (hroot : tokens.delimiter.toList <:+: path.toList → ∀ value, ¬RootChild data path value)
    (default : Tree) :
    tokens.resolve data path default = Path.lookupD tokens.delimiter data path default := by
  cases hexact : PathTokens.exactChild? data path with
  | none => exact resolve_of_no_exactChild hkeys hpath hplain hexact default
  | some value =>
    -- the path has no delimiter in it, and is its only segment
    have hwhole : ¬tokens.delimiter.toList <:+: path.toList := fun hinfix =>
      hroot hinfix value (exactChild?_eq_some_iff.1 hexact)
    have hsegments : Path.segments tokens.delimiter path = [path] :=
      (if_neg tokens.delimiter_ne).trans (split_eq_singleton tokens.delimiter_ne hwhole)
    have hplus : path.toList.head? ≠ some '+' := by
      rw [hsegments] at hplain
      exact (hplain path (by simp)).no_plus
    have hchild : data.child? path = some value := by
      rw [← exactChild?_eq_child? hplus, hexact]
    have hresolve : tokens.resolve data path default = value := by
      rw [PathTokens.resolve, hexact]
    rw [hresolve, Path.lookupD, Path.lookup?, hsegments]
    simp [Tree.get?, hchild]

def purchases : Tree :=
  .object [("orders", .list [.null, .object [("tags", .list [.text "new", .text "paid"])]])]

lemma purchases_distinctKeys : DistinctKeys purchases := by
  have htext (s : String) : DistinctKeys (.text s) := distinctKeys_of_leaf rfl
  have hnull : DistinctKeys .null := distinctKeys_of_leaf rfl
  simp [purchases, distinctKeys_object_iff, distinctKeys_list_iff, htext, hnull, Table.keys]

lemma purchases_have_no_child_of_path (value : Tree) :
    ¬RootChild purchases "orders.01.tags" value := by
  have hnone : PathTokens.exactChild? purchases "orders.01.tags" = none := by rfl
  exact exactChild?_eq_none_iff.1 hnone value

/-- The numeral has a leading zero, and the one match is itself a list. -/
theorem order_tags_resolve_by_descent :
    DistinctKeys purchases ∧
      (∀ segment ∈ Path.segments "." "orders.01.tags", PlainSegment "*" segment) ∧
      (∀ value, ¬RootChild purchases "orders.01.tags" value) ∧
      PathTokens.usual.resolve purchases "orders.01.tags" .null =
        .list [.text "new", .text "paid"] := by
  have hsegments : Path.segments "." "orders.01.tags" = ["orders", "01", "tags"] := by rfl
  have hplain : ∀ segment ∈ Path.segments "." "orders.01.tags", PlainSegment "*" segment := by
    rw [hsegments]
    simp only [List.forall_mem_cons, List.not_mem_nil, false_implies, implies_true, and_true]
    and_intros <;> exact ⟨by decide, by decide⟩
  refine ⟨purchases_distinctKeys, hplain, purchases_have_no_child_of_path, ?_⟩
  have hresolve := plain_path_resolves_to_value_at_path .usual purchases_distinctKeys (by decide)
    hplain (fun _ => purchases_have_no_child_of_path) .null
  exact hresolve.trans (by rfl)

end RuleChain.Proofs
