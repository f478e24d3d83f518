import Mathlib.Tactic.Lemma
import RuleChain.Text.Search

/-!
# Occurrences of a separator

A text has a first and a last cut at a separator exactly if the separator occurs in it. The first
cut is found behind a text that shares no character with the separator, and the last one where the
separator does not begin again.
-/

namespace RuleChain.Proofs
open RuleChain.Text

variable {sep : List Char}

lemma stripChars?_append (start rest : List Char) :
    stripChars? start (start ++ rest) = some rest := by
  simp [stripChars?]

lemma stripChars?_eq_none_iff {s : List Char} : stripChars? sep s = none ↔ ¬sep <+: s := by
  simp [stripChars?]

/-- A text that starts with another character than the separator does not start with it. -/
lemma stripChars?_eq_none (hsep : sep ≠ []) {c : Char} (hc : c ∉ sep) (s : List Char) :
    stripChars? sep (c :: s) = none := by
  rw [stripChars?_eq_none_iff]
  obtain ⟨d, sep, rfl⟩ := List.exists_cons_of_ne_nil hsep
  rintro ⟨rest, hrest⟩
  obtain ⟨rfl, -⟩ := List.cons.inj hrest
  exact hc List.mem_cons_self

lemma cutChars?_eq_none_iff {s : List Char} : cutChars? sep s = none ↔ ¬sep <:+: s := by
  induction s with
  | nil => simp [cutChars?]
  | cons c s ih =>
    rw [List.infix_cons_iff, not_or, ← ih, ← stripChars?_eq_none_iff, cutChars?]
    cases stripChars? sep (c :: s) <;> simp

lemma cutLastChars?_eq_none_iff {s : List Char} : cutLastChars? sep s = none ↔ ¬sep <:+: s := by
  induction s with
  | nil => simp [cutLastChars?]
  | cons c s ih =>
    rw [List.infix_cons_iff, not_or, ← ih, ← stripChars?_eq_none_iff, cutLastChars?]
    cases cutLastChars? sep s <;> simp

/-- The first occurrence after a text without characters of the separator is the one that stands
right behind it. -/
lemma cutChars?_append (hsep : sep ≠ []) {start : List Char} (hstart : ∀ c ∈ start, c ∉ sep)
    (rest : List Char) : cutChars? sep (start ++ (sep ++ rest)) = some (start, rest) := by
  induction start with
  | nil =>
    obtain ⟨d, sep, rfl⟩ := List.exists_cons_of_ne_nil hsep
    have hstrip := stripChars?_append (d :: sep) rest
    rw [List.cons_append] at hstrip
    rw [List.nil_append, List.cons_append, cutChars?, hstrip]
  | cons c start ih =>
    have hnone := stripChars?_eq_none hsep (hstart c List.mem_cons_self)
      (start ++ (sep ++ rest))
    rw [List.cons_append, cutChars?, hnone,
      ih fun c hc => hstart c (List.mem_cons_of_mem _ hc)]
    rfl

lemma cutChars?_eq_none (hsep : sep ≠ []) {s : List Char} (h : ∀ c ∈ s, c ∉ sep) :
    cutChars? sep s = none := by
  rw [cutChars?_eq_none_iff]
  intro hoccurs
  obtain ⟨c, hc⟩ := List.exists_mem_of_ne_nil sep hsep
  exact h c (hoccurs.subset hc) hc

/-- An occurrence is the last one if the separator does not occur again behind its first
character. -/
lemma cutLastChars?_append {rest : List Char} (h : ¬sep <:+: (sep ++ rest).tail)
    (s : List Char) : cutLastChars? sep (s ++ (sep ++ rest)) = some (s, rest) := by
  induction s with
  | nil =>
    cases sep with
    | nil => exact absurd List.nil_infix h
    | cons c sep =>
      have hstrip := stripChars?_append (c :: sep) rest
      have hnone : cutLastChars? (c :: sep) (sep ++ rest) = none := cutLastChars?_eq_none_iff.2 h
      rw [List.cons_append] at hstrip
      rw [List.nil_append, List.cons_append, cutLastChars?, hnone, hstrip]
      rfl
  | cons c s ih => rw [List.cons_append, cutLastChars?, ih]

/-- The last occurrence in a text that ends with the separator is the one at the end. -/
lemma cutLastChars?_append_self (hsep : sep ≠ []) (s : List Char) :
    cutLastChars? sep (s ++ sep) = some (s, []) := by
  have hbehind : ¬sep <:+: (sep ++ []).tail := by
    intro hoccurs
    have hlength := hoccurs.length_le
    have hpos := List.length_pos_iff.2 hsep
    rw [List.append_nil, List.length_tail] at hlength
    omega
  simpa using cutLastChars?_append hbehind s

lemma occurs_iff {part s : String} : occurs part s = true ↔ part.toList <:+: s.toList := by
  rw [occurs, Option.isSome_iff_ne_none, Ne, cutChars?_eq_none_iff, Decidable.not_not]

end RuleChain.Proofs
