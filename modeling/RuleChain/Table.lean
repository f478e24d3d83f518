/-!
# Ordered tables

A table maps keys to values and keeps the order in which keys were first put in. It is the plain
list of its entries; every operation keeps the keys distinct.
-/

namespace RuleChain

/-- The entries of a table, in the order of their first insertion. -/
abbrev Table (α : Type) := List (String × α)

namespace Table

variable {α : Type}

def get? : List (String × α) → String → Option α
  | [], _ => none
  | (k, v) :: rest, key => if k = key then some v else get? rest key

def hasKey (t : List (String × α)) (key : String) : Bool :=
  (get? t key).isSome

def keys (t : List (String × α)) : List String :=
  t.map (·.1)

/-- Replaces the value under a key in its place, or adds the entry at the end. -/
def insert : List (String × α) → String → α → List (String × α)
  | [], key, value => [(key, value)]
  | (k, v) :: rest, key, value =>
    if k = key then (k, value) :: rest else (k, v) :: insert rest key value

/-- Drops the entry of a key; the others keep their order. -/
def erase : List (String × α) → String → List (String × α)
  | [], _ => []
  | (k, v) :: rest, key => if k = key then erase rest key else (k, v) :: erase rest key

/-- The table of some entries: a repeated key keeps its first place and takes its last value. -/
def ofEntries (entries : List (String × α)) : List (String × α) :=
  entries.foldl (fun t entry => insert t entry.1 entry.2) []

/-- Replaces the value under a key in its place, or adds the entry before the first greater key. In
a table with increasing keys they stay increasing. -/
def insertSorted : List (String × α) → String → α → List (String × α)
  | [], key, value => [(key, value)]
  | (k, v) :: rest, key, value =>
    if k = key then (k, value) :: rest
    else if key < k then (key, value) :: (k, v) :: rest
    else (k, v) :: insertSorted rest key value

/-- The table with increasing keys of some entries; a repeated key takes its last value. -/
def sortedOfEntries (entries : List (String × α)) : List (String × α) :=
  entries.foldl (fun t entry => insertSorted t entry.1 entry.2) []

theorem get?_insert (t : List (String × α)) (key : String) (value : α) (other : String) :
    get? (insert t key value) other = if key = other then some value else get? t other := by
  induction t with
  | nil => simp [insert, get?]
  | cons entry rest ih =>
    obtain ⟨k, v⟩ := entry
    by_cases hk : k = key
    · subst hk
      by_cases ho : k = other <;> simp [insert, get?, ho]
    · by_cases ho : k = other
      · subst ho
        simp [insert, get?, hk, Ne.symm hk]
      · simp [insert, get?, hk, ho, ih]

theorem get?_erase (t : List (String × α)) (key other : String) :
    get? (erase t key) other = if key = other then none else get? t other := by
  induction t with
  | nil => simp [erase, get?]
  | cons entry rest ih =>
    obtain ⟨k, v⟩ := entry
    by_cases hk : k = key
    · subst hk
      simp only [erase, if_true, ih]
      by_cases ho : k = other <;> simp [get?, ho]
    · by_cases ho : k = other
      · subst ho
        simp [erase, get?, hk, Ne.symm hk]
      · simp [erase, get?, hk, ho, ih]

theorem get?_eq_none_iff {t : List (String × α)} {key : String} :
    get? t key = none ↔ key ∉ keys t := by
  induction t with
  | nil => simp [get?, keys]
  | cons entry rest ih =>
    obtain ⟨k, v⟩ := entry
    by_cases hk : k = key
    · simp [get?, keys, hk]
    · simpa [get?, keys, hk, Ne.symm hk] using ih

theorem insert_of_not_mem {t : List (String × α)} {key : String} (h : key ∉ keys t) (value : α) :
    insert t key value = t ++ [(key, value)] := by
  induction t with
  | nil => rfl
  | cons entry rest ih =>
    obtain ⟨k, v⟩ := entry
    simp only [keys, List.map_cons, List.mem_cons, not_or] at h
    simp [insert, Ne.symm h.1, ih h.2]

theorem insert_insert (t : List (String × α)) (key : String) (value value' : α) :
    insert (insert t key value) key value' = insert t key value' := by
  induction t with
  | nil => simp [insert]
  | cons entry rest ih => by_cases hk : entry.1 = key <;> simp [insert, hk, ih]

/-- An entry that is found has a place in the table, and another value under its key changes the
table there only. -/
theorem exists_place_of_get? {t : List (String × α)} {key : String} {value : α}
    (h : get? t key = some value) :
    ∃ before after, t = before ++ (key, value) :: after ∧
      ∀ other, insert t key other = before ++ (key, other) :: after := by
  induction t with
  | nil => simp [get?] at h
  | cons entry rest ih =>
    obtain ⟨k, v⟩ := entry
    by_cases hk : k = key
    · subst hk
      obtain rfl : v = value := by simpa [get?] using h
      exact ⟨[], rest, rfl, fun other => by simp [insert]⟩
    · rw [get?, if_neg hk] at h
      obtain ⟨before, after, rfl, hinsert⟩ := ih h
      exact ⟨(k, v) :: before, after, rfl, fun other => by simp [insert, hk, hinsert]⟩

/-- To put back what is there changes nothing. -/
theorem insert_of_get? {t : List (String × α)} {key : String} {value : α}
    (h : get? t key = some value) : insert t key value = t := by
  obtain ⟨before, after, rfl, hinsert⟩ := exists_place_of_get? h
  exact hinsert value

theorem keys_insert (t : List (String × α)) (key : String) (value : α) :
    keys (insert t key value) = if key ∈ keys t then keys t else keys t ++ [key] := by
  cases h : get? t key with
  | none =>
    have hkey : key ∉ keys t := get?_eq_none_iff.1 h
    rw [insert_of_not_mem hkey, if_neg hkey]
    simp [keys]
  | some old =>
    obtain ⟨before, after, rfl, hinsert⟩ := exists_place_of_get? h
    simp [hinsert, keys]

theorem nodup_keys_insert {t : List (String × α)} (h : (keys t).Nodup) (key : String) (value : α) :
    (keys (insert t key value)).Nodup := by
  rw [keys_insert]
  split
  · exact h
  · next hkey => simpa [List.nodup_append, h] using fun k hk => ne_of_mem_of_not_mem hk hkey

theorem eq_or_mem_of_mem_insert {t : List (String × α)} {key : String} {value : α}
    {entry : String × α} (h : entry ∈ insert t key value) : entry = (key, value) ∨ entry ∈ t := by
  cases hget : get? t key with
  | none =>
    rw [insert_of_not_mem (get?_eq_none_iff.1 hget)] at h
    simpa [or_comm] using h
  | some old =>
    obtain ⟨before, after, rfl, hinsert⟩ := exists_place_of_get? hget
    rw [hinsert] at h
    simp only [List.mem_append, List.mem_cons] at h ⊢
    grind

/-- What the empty table has and every insertion of an entry keeps, the table of the entries has. -/
theorem ofEntries_induction (holds : List (String × α) → Prop) {entries : List (String × α)}
    (empty : holds [])
    (insert : ∀ t, holds t → ∀ entry ∈ entries, holds (insert t entry.1 entry.2)) :
    holds (ofEntries entries) :=
  List.foldlRecOn entries _ empty insert

theorem sortedOfEntries_induction (holds : List (String × α) → Prop)
    {entries : List (String × α)} (empty : holds [])
    (insert : ∀ t, holds t → ∀ entry ∈ entries, holds (insertSorted t entry.1 entry.2)) :
    holds (sortedOfEntries entries) :=
  List.foldlRecOn entries _ empty insert

theorem mem_of_mem_ofEntries {entries : List (String × α)} {entry : String × α}
    (h : entry ∈ ofEntries entries) : entry ∈ entries := by
  refine ofEntries_induction (fun t => ∀ e ∈ t, e ∈ entries) (by simp) ?_ entry h
  intro t ht added hadded e he
  obtain rfl | he := eq_or_mem_of_mem_insert he
  · exact hadded
  · exact ht e he

theorem nodup_keys_ofEntries (entries : List (String × α)) : (keys (ofEntries entries)).Nodup :=
  ofEntries_induction (fun t => (keys t).Nodup) (by simp [keys]) fun _ ht entry _ =>
    nodup_keys_insert ht entry.1 entry.2

/-- Entries with new and distinct keys are put in one behind the other. -/
theorem foldl_insert_of_nodup {t entries : List (String × α)} (h : (keys (t ++ entries)).Nodup) :
    entries.foldl (fun t entry => insert t entry.1 entry.2) t = t ++ entries := by
  induction entries generalizing t with
  | nil => simp
  | cons entry rest ih =>
    have hkey : entry.1 ∉ keys t := by
      simp only [keys, List.map_append, List.map_cons, List.nodup_append] at h
      exact fun hmem => h.2.2 _ hmem _ (by simp) rfl
    rw [List.foldl_cons, insert_of_not_mem hkey, ih (by simpa using h)]
    simp

/-- Entries with distinct keys are their own table. -/
theorem ofEntries_of_nodup {entries : List (String × α)} (h : (keys entries).Nodup) :
    ofEntries entries = entries :=
  foldl_insert_of_nodup (t := []) h

end Table

end RuleChain
