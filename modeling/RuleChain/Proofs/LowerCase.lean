import Mathlib.Tactic.Lemma
import RuleChain.Text.Case

/-!
# Lower case

What the tables of lower case map to, they leave alone. Main statement: a text in lower case stays
as it is, so that names that differ in their letter case only have one lower case between them.
-/

namespace RuleChain.Proofs
open RuleChain.Text

section Runs

/-- A run maps a code point. -/
def InRun (run : CaseRun) (n : Nat) : Prop :=
  run.first ≤ n ∧ n ≤ run.last ∧ (n - run.first) % run.step = 0

instance decidableInRun (run : CaseRun) (n : Nat) : Decidable (InRun run n) :=
  inferInstanceAs (Decidable (_ ∧ _))

def firstImage (run : CaseRun) : Nat :=
  (run.first + run.shift).toNat

def lastImage (run : CaseRun) : Nat :=
  (run.last + run.shift).toNat

/-- What the first run maps to lies before or behind the second run, or between its code points. -/
def misses (run other : CaseRun) : Bool :=
  (lastImage run).blt other.first || other.last.blt (firstImage run) ||
    ((run.step.beq 2 || run.first.beq run.last) && other.step.beq 2 &&
      ((firstImage run + other.first) % 2).beq 1)

/-- What is mapped in lower case: the runs, and the code points that are mapped to several. -/
def loweredRuns : List CaseRun :=
  lowerRuns ++ lowerExpansions.map fun entry => ⟨entry.1, entry.1, 1, 0⟩

lemma lowerRuns_miss :
    (lowerRuns.all fun run => loweredRuns.all fun other => misses run other) = true := by
  decide +kernel

lemma lowerRuns_nonneg : ∀ run ∈ lowerRuns, 0 ≤ run.first + run.shift := by decide +kernel

lemma lowerExpansions_miss :
    ∀ entry ∈ lowerExpansions, ∀ n ∈ entry.2, ∀ run ∈ loweredRuns, ¬InRun run n := by
  decide +kernel

lemma not_inRun_of_misses {run other : CaseRun} (hrun : 0 ≤ run.first + run.shift)
    (h : misses run other = true) {n : Nat} (hn : InRun run n) :
    ¬InRun other ((n : Int) + run.shift).toNat := by
  obtain ⟨hfirst, hlast, hstep⟩ := hn
  rintro ⟨hfirst', hlast', hstep'⟩
  simp only [misses, firstImage, lastImage, Bool.or_eq_true, Bool.and_eq_true, Nat.blt_eq,
    Nat.beq_eq]
    at h
  obtain (hbefore | hbehind) | ⟨⟨htwo | hone, htwo'⟩, hodd⟩ := h
  · omega
  · omega
  · rw [htwo] at hstep
    rw [htwo'] at hstep'
    omega
  · rw [htwo'] at hstep'
    omega

end Runs

section Characters

/-- Lower case does not map the code point. -/
def Unmapped (n : Nat) : Prop :=
  ∀ run ∈ loweredRuns, ¬InRun run n

/-- A character stays as it is in lower case, also at the end of a word. -/
structure IsLower (c : Char) : Prop where
  ne_sigma : c ≠ 'Σ'
  fixed : mapCase lowerRuns lowerExpansions c = [c]

lemma lookup_of_unmapped {n : Nat} (h : Unmapped n) : lowerExpansions.lookup n = none := by
  rw [List.lookup_eq_none_iff]
  intro entry hentry
  have hrun := h ⟨entry.1, entry.1, 1, 0⟩ (List.mem_append_right _ (List.mem_map_of_mem hentry))
  simp only [InRun, Nat.mod_one, and_true, not_and] at hrun
  rw [bne_iff_ne]
  omega

lemma apply?_eq_some {n image : Nat} (h : CaseRun.apply? lowerRuns n = some image) :
    ∃ run ∈ lowerRuns, InRun run n ∧ image = ((n : Int) + run.shift).toNat := by
  obtain ⟨run, hfind, rfl⟩ := Option.map_eq_some_iff.1 h
  have hrun := List.find?_some hfind
  simp only [Bool.and_eq_true, decide_eq_true_eq, beq_iff_eq] at hrun
  exact ⟨run, List.mem_of_find?_eq_some hfind, ⟨hrun.1.1, hrun.1.2, hrun.2⟩, rfl⟩

lemma isLower_of_unmapped {c : Char} (h : Unmapped c.toNat) : IsLower c := by
  have hsigma : ¬Unmapped ('Σ').toNat := by
    unfold Unmapped
    decide +kernel
  refine ⟨fun heq => hsigma (heq ▸ h), ?_⟩
  rw [mapCase, lookup_of_unmapped h]
  cases hrun : CaseRun.apply? lowerRuns c.toNat with
  | none => rfl
  | some image =>
    obtain ⟨run, hmem, hin, -⟩ := apply?_eq_some hrun
    exact absurd hin (h run (List.mem_append_left _ hmem))

/-- A number that is no code point stands for the null character. -/
lemma isLower_ofNat {n : Nat} (h : Unmapped n) : IsLower (Char.ofNat n) := by
  apply isLower_of_unmapped
  have hnull : Unmapped ('\x00').toNat := by
    unfold Unmapped
    decide +kernel
  by_cases hvalid : n.isValidChar
  · have hcode : (Char.ofNat n).toNat = n := by
      rw [Char.ofNat, dif_pos hvalid]
      rfl
    rwa [hcode]
  · rwa [Char.ofNat, dif_neg hvalid]

lemma isLower_of_mem_mapCase {c d : Char} (hc : c ≠ 'Σ')
    (hd : d ∈ mapCase lowerRuns lowerExpansions c) : IsLower d := by
  rw [mapCase] at hd
  split at hd
  · next image hlookup =>
    obtain ⟨before, after, hentry, -⟩ := List.lookup_eq_some_iff.1 hlookup
    obtain ⟨n, hn, rfl⟩ := List.mem_map.1 hd
    have hmem : (c.toNat, image) ∈ lowerExpansions := hentry ▸ by simp
    exact isLower_ofNat (lowerExpansions_miss _ hmem n hn)
  · next hlookup =>
    split at hd
    · next image hrun =>
      obtain ⟨run, hmem, hin, rfl⟩ := apply?_eq_some hrun
      obtain rfl := List.mem_singleton.1 hd
      apply isLower_ofNat
      intro other hother
      have hmiss := List.all_eq_true.1 (List.all_eq_true.1 lowerRuns_miss run hmem) other hother
      exact not_inRun_of_misses (lowerRuns_nonneg run hmem) hmiss hin
    · next hrun =>
      obtain rfl := List.mem_singleton.1 hd
      exact ⟨hc, by simp only [mapCase, hlookup, hrun]⟩

end Characters

section Texts

lemma isLower_lowerSigma (before after : List Char) : IsLower (lowerSigma before after) := by
  have hforms : Unmapped ('ς').toNat ∧ Unmapped ('σ').toNat := by
    unfold Unmapped
    decide +kernel
  unfold lowerSigma
  split
  · exact isLower_of_unmapped hforms.1
  · exact isLower_of_unmapped hforms.2

lemma isLower_of_mem_lowerFrom {before s : List Char} {d : Char} (hd : d ∈ lowerFrom before s) :
    IsLower d := by
  induction s generalizing before with
  | nil => cases hd
  | cons c s ih =>
    rw [lowerFrom, List.mem_append] at hd
    obtain hd | hd := hd
    · split at hd
      · obtain rfl := List.mem_singleton.1 hd
        exact isLower_lowerSigma before s
      · next hc => exact isLower_of_mem_mapCase hc hd
    · exact ih hd

lemma lowerFrom_of_isLower {s : List Char} (h : ∀ c ∈ s, IsLower c) (before : List Char) :
    lowerFrom before s = s := by
  induction s generalizing before with
  | nil => rfl
  | cons c s ih =>
    obtain ⟨hsigma, hfixed⟩ := h c List.mem_cons_self
    rw [lowerFrom, if_neg hsigma, hfixed, ih fun d hd => h d (List.mem_cons_of_mem c hd)]
    rfl

/-- A text in lower case stays as it is. -/
theorem lower_lower (s : String) : lower (lower s) = lower s := by
  have hlower : ∀ c ∈ (lower s).toList, IsLower c := by
    rw [lower, String.toList_ofList]
    exact fun c hc => isLower_of_mem_lowerFrom hc
  rw [lower, lowerFrom_of_isLower hlower, String.ofList_toList]

end Texts

end RuleChain.Proofs
