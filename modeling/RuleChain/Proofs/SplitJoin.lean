import Mathlib.Tactic.Lemma
import RuleChain.Text.Search

/-!
# Splitting and joining

Joining the pieces of a split gives the text back, whatever the text and the separator. Splitting a
join gives the pieces back where no piece shares a character with the separator: an occurrence of
the separator can then neither lie in a piece nor reach into one.
-/

namespace RuleChain.Proofs
open RuleChain.Text

/-- A text and a separator have no character in common. -/
def Apart (sep s : String) : Prop :=
  ∀ c ∈ s.toList, c ∉ sep.toList

instance decidableApart (sep s : String) : Decidable (Apart sep s) :=
  decidable_of_iff (s.toList.all (fun c => !sep.toList.contains c) = true) (by simp [Apart])

lemma piecesFrom_ne_nil (sep : List Char) (skip : Nat) (s : List Char) :
    piecesFrom sep skip s ≠ [] := by
  induction s generalizing skip with
  | nil => simp [piecesFrom]
  | cons c s ih =>
    cases skip with
    | succ skip => exact ih skip
    | zero =>
      rw [piecesFrom]
      split
      · simp
      · cases h : piecesFrom sep 0 s <;> simp [consPiece]

lemma splitChars_ne_nil (sep s : List Char) : splitChars sep s ≠ [] := by
  unfold splitChars
  split
  · simp
  · exact piecesFrom_ne_nil sep 0 s

lemma joinChars_cons {sep piece : List Char} {pieces : List (List Char)} (h : pieces ≠ []) :
    joinChars sep (piece :: pieces) = piece ++ sep ++ joinChars sep pieces := by
  cases pieces with
  | nil => exact absurd rfl h
  | cons next pieces => rfl

lemma joinChars_consPiece {sep : List Char} {pieces : List (List Char)} (h : pieces ≠ [])
    (c : Char) : joinChars sep (consPiece c pieces) = c :: joinChars sep pieces := by
  cases pieces with
  | nil => exact absurd rfl h
  | cons piece pieces => cases pieces <;> rfl

lemma consPiece_eq_modifyHead {pieces : List (List Char)} (h : pieces ≠ []) (c : Char) :
    consPiece c pieces = pieces.modifyHead (c :: ·) := by
  cases pieces with
  | nil => exact absurd rfl h
  | cons piece pieces => rfl

lemma piecesFrom_eq_drop (sep : List Char) (skip : Nat) (s : List Char) :
    piecesFrom sep skip s = piecesFrom sep 0 (s.drop skip) := by
  induction s generalizing skip with
  | nil => simp [piecesFrom]
  | cons c s ih =>
    cases skip with
    | succ skip => exact ih skip
    | zero => rfl

section Separator

variable {sep : List Char} (hsep : sep ≠ [])

include hsep

/-- The pieces after some skipped characters make the text without these. -/
lemma joinChars_piecesFrom (skip : Nat) (s : List Char) :
    joinChars sep (piecesFrom sep skip s) = s.drop skip := by
  induction s generalizing skip with
  | nil => simp [piecesFrom, joinChars]
  | cons c s ih =>
    cases skip with
    | succ skip => exact ih skip
    | zero =>
      rw [piecesFrom]
      split
      · next hstart =>
        obtain ⟨rest, hrest⟩ := List.isPrefixOf_iff_prefix.1 hstart
        obtain ⟨c', sep, rfl⟩ := List.exists_cons_of_ne_nil hsep
        obtain ⟨rfl, rfl⟩ := List.cons.inj hrest
        rw [joinChars_cons (piecesFrom_ne_nil _ _ _), ih]
        simp
      · rw [joinChars_consPiece (piecesFrom_ne_nil sep 0 s), ih]
        rfl

lemma piecesFrom_sep_append (rest : List Char) :
    piecesFrom sep 0 (sep ++ rest) = [] :: piecesFrom sep 0 rest := by
  obtain ⟨c, sep, rfl⟩ := List.exists_cons_of_ne_nil hsep
  have hstart : (c :: sep).isPrefixOf (c :: (sep ++ rest)) = true := by simp
  rw [List.cons_append, piecesFrom, if_pos hstart, piecesFrom_eq_drop]
  simp

/-- Characters that are not in the separator go to the first piece. -/
lemma piecesFrom_append {start : List Char} (hstart : ∀ c ∈ start, c ∉ sep) (rest : List Char) :
    piecesFrom sep 0 (start ++ rest) = (piecesFrom sep 0 rest).modifyHead (start ++ ·) := by
  induction start with
  | nil => cases h : piecesFrom sep 0 rest <;> simp [h]
  | cons c start ih =>
    obtain ⟨c', sep, rfl⟩ := List.exists_cons_of_ne_nil hsep
    have hne : c' ≠ c := by
      rintro rfl
      exact hstart c' (by simp) (by simp)
    rw [List.cons_append, piecesFrom, if_neg (by simp [hne]),
      consPiece_eq_modifyHead (piecesFrom_ne_nil _ 0 _), ih fun c hc => hstart c (by simp [hc]),
      List.modifyHead_modifyHead]
    rfl

/-- A text without the separator is its only piece. -/
lemma splitChars_eq_singleton {s : List Char} (h : ¬sep <:+: s) : splitChars sep s = [s] := by
  rw [splitChars, if_neg hsep]
  induction s with
  | nil => rfl
  | cons c s ih =>
    have hstart : ¬sep <+: c :: s := fun hstart => h hstart.isInfix
    have hrest : ¬sep <:+: s := fun hrest => h (List.infix_cons hrest)
    rw [piecesFrom, if_neg (by rwa [List.isPrefixOf_iff_prefix]), ih hrest]
    rfl

lemma joinChars_splitChars (s : List Char) : joinChars sep (splitChars sep s) = s := by
  rw [splitChars, if_neg hsep, joinChars_piecesFrom hsep, List.drop_zero]

lemma splitChars_joinChars {pieces : List (List Char)} (hne : pieces ≠ [])
    (hapart : ∀ piece ∈ pieces, ∀ c ∈ piece, c ∉ sep) :
    splitChars sep (joinChars sep pieces) = pieces := by
  rw [splitChars, if_neg hsep]
  induction pieces with
  | nil => exact absurd rfl hne
  | cons piece pieces ih =>
    have hpiece : ∀ c ∈ piece, c ∉ sep := hapart piece (by simp)
    cases pieces with
    | nil => simpa [joinChars, piecesFrom] using piecesFrom_append hsep hpiece []
    | cons next pieces =>
      rw [joinChars_cons (by simp), List.append_assoc, piecesFrom_append hsep hpiece,
        piecesFrom_sep_append hsep, ih (by simp) fun piece h => hapart piece (by simp [h])]
      simp

end Separator

/-- At a character a text is split wherever the character stands. -/
lemma splitChars_append_char (c : Char) (s t : List Char) :
    splitChars [c] (s ++ c :: t) = splitChars [c] s ++ splitChars [c] t := by
  simp only [splitChars, if_neg (List.cons_ne_nil c [])]
  induction s with
  | nil => exact piecesFrom_sep_append (List.cons_ne_nil c []) t
  | cons d s ih =>
    rw [List.cons_append, piecesFrom, piecesFrom]
    by_cases hd : c = d
    · subst hd
      simp [ih]
    · have hstart : ∀ l, ([c] : List Char).isPrefixOf (d :: l) = false :=
        fun l => by simp [List.isPrefixOf, hd]
      obtain ⟨piece, pieces, hpieces⟩ := List.exists_cons_of_ne_nil (piecesFrom_ne_nil [c] 0 s)
      rw [hstart, hstart, ih, hpieces]
      rfl

/-- A character gives way to a text wherever it stands. -/
lemma replaceChars_char (c : Char) (new s : List Char) :
    replaceChars [c] new s = s.flatMap fun d => if d = c then new else [d] := by
  rw [replaceChars, splitChars, if_neg (List.cons_ne_nil c [])]
  induction s with
  | nil => rfl
  | cons d s ih =>
    have hpieces := piecesFrom_ne_nil [c] 0 s
    rw [piecesFrom, List.flatMap_cons]
    by_cases hd : d = c
    · subst hd
      simp [joinChars_cons hpieces, ih]
    · simp [Ne.symm hd, hd, joinChars_consPiece hpieces, ih]

lemma split_eq_singleton {sep s : String} (hsep : sep ≠ "") (h : ¬sep.toList <:+: s.toList) :
    split sep s = [s] := by
  have hchars : sep.toList ≠ [] := by simpa using hsep
  simp [split, splitChars_eq_singleton hchars h]

theorem join_split {sep : String} (hsep : sep ≠ "") (s : String) : join sep (split sep s) = s := by
  have h : sep.toList ≠ [] := by simpa using hsep
  simp [join, split, Function.comp_def, joinChars_splitChars h]

theorem split_join {sep : String} {pieces : List String} (hsep : sep ≠ "") (hne : pieces ≠ [])
    (hapart : ∀ piece ∈ pieces, Apart sep piece) : split sep (join sep pieces) = pieces := by
  have h : sep.toList ≠ [] := by simpa using hsep
  rw [split, join, String.toList_ofList, splitChars_joinChars h (by simpa using hne)]
  · simp [Function.comp_def]
  · simpa [Apart] using hapart

lemma join_singleton (sep s : String) : join sep [s] = s := by
  simp [join, joinChars]

lemma join_cons {sep piece : String} {pieces : List String} (h : pieces ≠ []) :
    join sep (piece :: pieces) = piece ++ sep ++ join sep pieces := by
  rw [← String.toList_inj]
  have hchars : pieces.map String.toList ≠ [] := by simpa using h
  simp [join, joinChars_cons hchars]

lemma join_concat {sep last : String} {front : List String} (h : front ≠ []) :
    join sep (front ++ [last]) = join sep front ++ sep ++ last := by
  induction front with
  | nil => exact absurd rfl h
  | cons piece front ih =>
    cases front with
    | nil =>
      rw [List.singleton_append, join_cons (List.cons_ne_nil last []), join_singleton,
        join_singleton]
    | cons next front =>
      have hfront : next :: front ≠ [] := List.cons_ne_nil next front
      rw [List.cons_append, join_cons (List.concat_ne_nil last (next :: front)), ih hfront,
        join_cons hfront]
      simp only [String.append_assoc]

lemma replace_eq_join_split (old new s : String) : replace old new s = join new (split old s) := by
  simp [replace, replaceChars, join, split, Function.comp_def]

end RuleChain.Proofs
