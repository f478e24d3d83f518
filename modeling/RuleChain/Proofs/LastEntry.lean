import Mathlib.Data.List.Induction
import Mathlib.Data.List.Nodup
import Mathlib.Tactic.Lemma
import RuleChain.Table

/-!
# Last entries

Entries that are put into a table one after another leave under each key the value of the last one,
and leave the keys in the order of their first appearance. Keys may be respelled on the way in.
-/

namespace RuleChain.Proofs

lemma eraseDups_concat (texts : List String) (text : String) :
    (texts ++ [text]).eraseDups =
      if text ∈ texts then texts.eraseDups else texts.eraseDups ++ [text] := by
  rw [List.eraseDups_append]
  by_cases h : text ∈ texts <;> simp [List.removeAll, List.eraseDups_cons, h]

lemma nodup_eraseDups (texts : List String) : texts.eraseDups.Nodup := by
  induction texts using List.reverseRecOn with
  | nil => exact List.nodup_nil
  | append_singleton texts text ih =>
    rw [eraseDups_concat]
    split
    · exact ih
    · next h => exact List.nodup_append_comm.1 (by simp [ih, h])

section Entries

variable {α : Type} {alike : String → Prop} {entries : List (String × α)}

/-- The last one of some entries, of those whose keys are alike, has this value. -/
def LastUnder (alike : String → Prop) (entries : List (String × α)) (value : α) : Prop :=
  ∃ before key after, entries = before ++ (key, value) :: after ∧ alike key ∧
    ∀ later ∈ after, ¬ alike later.1

lemma not_lastUnder_nil {value : α} : ¬ LastUnder alike [] value := by
  rintro ⟨before, key, after, h, -⟩
  simp at h

lemma lastUnder_concat_of_alike (alike : String → Prop) {key : String} (hkey : alike key)
    {last value : α} :
    LastUnder alike (entries ++ [(key, last)]) value ↔ value = last := by
  constructor
  · rintro ⟨before, other, after, h, -, hafter⟩
    obtain rfl | ⟨after, final, rfl⟩ := List.eq_nil_or_concat after
    · simp_all
    · have hsplit : entries ++ [(key, last)] = before ++ (other, value) :: after ++ [final] := by
        simpa using h
      obtain ⟨-, hlast⟩ := List.append_inj' hsplit rfl
      obtain rfl := List.singleton_inj.1 hlast
      exact absurd hkey (hafter (key, last) (by simp))
  · rintro rfl
    exact ⟨entries, key, [], rfl, hkey, by simp⟩

lemma lastUnder_concat_of_not_alike (alike : String → Prop) {key : String} (hkey : ¬ alike key)
    {last value : α} :
    LastUnder alike (entries ++ [(key, last)]) value ↔ LastUnder alike entries value := by
  constructor
  · rintro ⟨before, other, after, h, hother, hafter⟩
    obtain rfl | ⟨after, final, rfl⟩ := List.eq_nil_or_concat after
    · simp_all
    · have hsplit : entries ++ [(key, last)] = before ++ (other, value) :: after ++ [final] := by
        simpa using h
      obtain ⟨rfl, -⟩ := List.append_inj' hsplit rfl
      exact ⟨before, other, after, rfl, hother, fun later hlater => hafter later (by simp [hlater])⟩
  · rintro ⟨before, other, after, rfl, hother, hafter⟩
    refine ⟨before, other, after ++ [(key, last)], by simp, hother, fun later hlater => ?_⟩
    obtain hlater | hlater := List.mem_append.1 hlater
    · exact hafter later hlater
    · simpa [List.mem_singleton.1 hlater] using hkey

lemma mem_of_lastUnder {key : String} {value : α} (h : LastUnder (· = key) entries value) :
    (key, value) ∈ entries := by
  obtain ⟨before, key, after, rfl, rfl, -⟩ := h
  simp

/-- The last entry under a key stays the last one when values are replaced. -/
lemma lastUnder_map {β : Type} (f : String × α → β) {key : String} {value : α}
    (h : LastUnder (· = key) entries value) :
    LastUnder (· = key) (entries.map fun entry => (entry.1, f entry)) (f (key, value)) := by
  obtain ⟨before, key, after, rfl, rfl, hafter⟩ := h
  rw [List.map_append, List.map_cons]
  refine ⟨_, key, _, rfl, rfl, fun later hlater => ?_⟩
  obtain ⟨entry, hentry, rfl⟩ := List.mem_map.1 hlater
  exact hafter entry hentry

end Entries

/-- A table holds what entries leave that are put in one after another, each under its key as it is
spelled there. -/
structure Holds {α : Type} (spell : String → String) (entries : List (String × α))
    (table : Table α) : Prop where
  keys_eq : Table.keys table = (entries.map fun entry => spell entry.1).eraseDups
  get?_eq_some_iff (key : String) (value : α) :
    Table.get? table key = some value ↔ LastUnder (spell · = key) entries value

section Holds

variable {α : Type} {spell : String → String} {entries : List (String × α)} {table : Table α}

lemma holds_nil : Holds spell [] ([] : Table α) where
  keys_eq := rfl
  get?_eq_some_iff key value := by simp [Table.get?, not_lastUnder_nil]

lemma Holds.insert (h : Holds spell entries table) (key : String) (value : α) :
    Holds spell (entries ++ [(key, value)]) (Table.insert table (spell key) value) where
  keys_eq := by
    rw [Table.keys_insert, h.keys_eq, List.map_append, List.map_singleton, eraseDups_concat]
    simp only [List.mem_eraseDups]
  get?_eq_some_iff other found := by
    rw [Table.get?_insert]
    by_cases hother : spell key = other
    · rw [if_pos hother, Option.some_inj, eq_comm]
      exact (lastUnder_concat_of_alike (spell · = other) hother).symm
    · rw [if_neg hother, h.get?_eq_some_iff]
      exact (lastUnder_concat_of_not_alike (spell · = other) hother).symm

lemma Holds.nodup_keys (h : Holds spell entries table) : (Table.keys table).Nodup := by
  rw [h.keys_eq]
  exact nodup_eraseDups _

lemma Holds.mem_keys_iff (h : Holds spell entries table) {key : String} :
    key ∈ Table.keys table ↔ ∃ entry ∈ entries, spell entry.1 = key := by
  rw [h.keys_eq, List.mem_eraseDups, List.mem_map]

/-- A table with distinct keys, in the spelling in which keys are put in, holds its own entries. -/
lemma holds_self (hnodup : (Table.keys table).Nodup)
    (hspell : ∀ key ∈ Table.keys table, spell key = key) : Holds spell table table := by
  -- from the right: the last key is a new one, so that its entry is put in at the end
  induction table using List.reverseRecOn with
  | nil => exact holds_nil
  | append_singleton table entry ih =>
    obtain ⟨key, value⟩ := entry
    simp only [Table.keys, List.map_append, List.map_cons, List.map_nil, List.mem_append,
      List.mem_singleton, List.nodup_append] at hnodup hspell
    have hkey : key ∉ Table.keys table := fun hmem => hnodup.2.2 key hmem key rfl rfl
    have hheld := (ih hnodup.1 fun key h => hspell key (.inl h)).insert key value
    rwa [hspell key (.inr rfl), Table.insert_of_not_mem hkey] at hheld

end Holds

end RuleChain.Proofs
