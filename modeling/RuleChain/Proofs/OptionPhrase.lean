import Mathlib.Tactic.Lemma
import RuleChain.Message.Wording
import RuleChain.Proofs.Occurrences
import RuleChain.Proofs.SplitJoin

/-!
# Options as a phrase

A message lists options as a phrase: a space follows each delimiter, and the last delimiter reads as
"or". The phrase is made by two searches, one from the left for the delimiters and one from the
right for the last delimiter with its space. Main statement: both find the delimiters between the
options and nothing else, also where the delimiter has spaces itself or an option is empty or starts
with spaces, as long as no option shares a character with the delimiter.
-/

namespace RuleChain.Proofs
open RuleChain.Text

/-- The occurrence of a separator and a gap before a text apart from the separator is the last one,
although the gap may be a character of the separator. -/
lemma not_infix_tail_of_apart {sep rest : List Char} (hsep : sep ≠ [])
    (hrest : ∀ c ∈ rest, c ∉ sep) (gap : Char) :
    ¬sep ++ [gap] <:+: (sep ++ [gap] ++ rest).tail := by
  rintro ⟨skipped, behind, hoccurs⟩
  obtain ⟨first, tail, hwhole⟩ : ∃ first tail, sep ++ [gap] ++ rest = first :: tail :=
    List.exists_cons_of_ne_nil (by simp)
  rw [hwhole, List.tail_cons] at hoccurs
  have hlater : first :: skipped ++ sep ++ gap :: behind = sep ++ [gap] ++ rest := by
    simp [hwhole, ← hoccurs]
  -- the later separator ends at the first gap or behind it
  have hends : sep ++ [gap] <+: first :: skipped ++ sep :=
    List.prefix_of_prefix_length_le (List.prefix_append _ rest) ⟨_, hlater⟩ (by simp)
  obtain ⟨between, hbetween⟩ := hends
  rw [← hbetween, List.append_assoc _ between, List.append_cancel_left_eq] at hlater
  -- so its last character is that gap or lies in the text, and in the text lies the later gap
  have hne : gap :: between ≠ [] := List.cons_ne_nil gap between
  have hlast : (gap :: between).getLast hne = sep.getLast hsep := by
    have hboth := congrArg List.getLast? hbetween
    rw [List.append_assoc, List.singleton_append, List.getLast?_append, List.getLast?_append,
      List.getLast?_eq_some_getLast hne, List.getLast?_eq_some_getLast hsep] at hboth
    exact Option.some.inj hboth
  have hmem : sep.getLast hsep ∈ rest := by
    rw [← hlater, ← hlast, List.mem_append, List.mem_cons]
    exact (List.mem_cons.1 (List.getLast_mem hne)).elim (.inr ∘ .inl) .inl
  exact hrest _ hmem (List.getLast_mem hsep)

/-- Behind a delimiter with a space, a text apart from the delimiter is what the last cut leaves. -/
lemma cutLast?_spaced {delimiter last : String} (hne : delimiter ≠ "")
    (hlast : Apart delimiter last) (s : String) :
    cutLast? (delimiter ++ " ") (s ++ (delimiter ++ " ") ++ last) = some (s, last) := by
  have hchars : delimiter.toList ≠ [] := by simpa using hne
  have hcut : cutLastChars? (delimiter ++ " ").toList (s ++ (delimiter ++ " ") ++ last).toList =
      some (s.toList, last.toList) := by
    have hlastCut := cutLastChars?_append (not_infix_tail_of_apart hchars hlast ' ') s.toList
    simpa using hlastCut
  rw [cutLast?, hcut]
  simp

/-- How options read that the delimiter splits into several. Only the last one has to be apart from
the delimiter. -/
lemma optionPhrase_of_split {delimiter options last : String} {front : List String}
    (hne : delimiter ≠ "") (hsplit : split delimiter options = front ++ [last])
    (hfront : front ≠ []) (hlast : Apart delimiter last) :
    Message.optionPhrase options delimiter =
      join (delimiter ++ " ") front ++ " or " ++ last := by
  have hoccurs : occurs delimiter options = true := by
    refine occurs_iff.2 (Decidable.byContradiction fun hnone => hfront ?_)
    rw [split_eq_singleton hne hnone] at hsplit
    have hparts : [] ++ [options] = front ++ [last] := hsplit
    exact (List.append_inj' hparts rfl).1.symm
  have hspaced : replace delimiter (delimiter ++ " ") options =
      join (delimiter ++ " ") front ++ (delimiter ++ " ") ++ last := by
    rw [replace_eq_join_split, hsplit, join_concat hfront]
  simp [Message.optionPhrase, hne, hoccurs, hspaced, cutLast?_spaced hne hlast]

/-- Several options apart from the delimiter read as the phrase of all but the last, with a space
behind each delimiter, and the last one behind "or". A text without the delimiter reads as it is, and
so does any text where there is no delimiter. -/
theorem options_read_as_phrase (delimiter : String) :
    (delimiter ≠ "" → ∀ (front : List String) (last : String), front ≠ [] →
      (∀ option ∈ front ++ [last], Apart delimiter option) →
      Message.optionPhrase (join delimiter (front ++ [last])) delimiter =
        join (delimiter ++ " ") front ++ " or " ++ last) ∧
    ∀ options : String, delimiter = "" ∨ ¬delimiter.toList <:+: options.toList →
      Message.optionPhrase options delimiter = options := by
  constructor
  · intro hne front last hfront hapart
    have hsplit : split delimiter (join delimiter (front ++ [last])) = front ++ [last] :=
      split_join hne (List.concat_ne_nil last front) hapart
    exact optionPhrase_of_split hne hsplit hfront (hapart last (by simp))
  · intro options hwhole
    refine if_pos (hwhole.imp_right fun hnone => ?_)
    rw [Bool.not_eq_true', ← Bool.not_eq_true, occurs_iff]
    exact hnone

/-- Three sizes, of which one is empty, between delimiters of two spaces, and one size alone. -/
theorem sizes_between_spaces_read_as_phrase :
    (∀ option ∈ ["small", ""] ++ ["large"], Apart "  " option) ∧
      join "  " (["small", ""] ++ ["large"]) = "small    large" ∧
      Message.optionPhrase "small    large" "  " = "small    or large" ∧
      ¬"  ".toList <:+: "large".toList ∧ Message.optionPhrase "large" "  " = "large" := by
  have hapart : ∀ option ∈ ["small", ""] ++ ["large"], Apart "  " option := by decide
  have hjoin : join "  " (["small", ""] ++ ["large"]) = "small    large" := by rfl
  have hspaced : join ("  " ++ " ") ["small", ""] ++ " or " ++ "large" = "small    or large" := by
    rfl
  have halone : ¬"  ".toList <:+: "large".toList := by decide
  obtain ⟨hphrase, hwhole⟩ := options_read_as_phrase "  "
  refine ⟨hapart, hjoin, ?_, halone, hwhole "large" (.inr halone)⟩
  rw [← hjoin, ← hspaced]
  exact hphrase (by decide) ["small", ""] "large" (by simp) hapart

/-- A last option that shares characters with the delimiter may be cut. -/
example : split "x x" "x xx " = ["", "x "] ∧ Message.optionPhrase "x xx " "x x" = "x  or " := by
  decide

end RuleChain.Proofs
