import Mathlib.Computability.Language
import RuleChain.Builtin.Content
import RuleChain.Proofs.PathRuleText
import RuleChain.Proofs.Verdicts

/-!
# Grammar of email addresses

An address is a mailbox, an at sign and a domain of labels with single dots between them. The rule
on addresses passes a text exactly if it is one from its first to its last character. The grammar is
stated twice, by what its parts are made of and as the language of a pattern, and both are the same.
-/

namespace RuleChain.Proofs
open RuleChain.Text
open scoped Computability

section Grammar

/-- The ASCII letters and digits. -/
def LetterOrDigit (c : Char) : Prop :=
  'a' ≤ c ∧ c ≤ 'z' ∨ 'A' ≤ c ∧ c ≤ 'Z' ∨ '0' ≤ c ∧ c ≤ '9'

instance decidableLetterOrDigit (c : Char) : Decidable (LetterOrDigit c) :=
  inferInstanceAs (Decidable (_ ∨ _))

def MailboxChar (c : Char) : Prop :=
  LetterOrDigit c ∨ c ∈ ".!#$%&'*+/=?^_\x60\x7b|\x7d~-".toList

instance decidableMailboxChar (c : Char) : Decidable (MailboxChar c) :=
  inferInstanceAs (Decidable (_ ∨ _))

def LabelChar (c : Char) : Prop :=
  LetterOrDigit c ∨ c = '-'

instance decidableLabelChar (c : Char) : Decidable (LabelChar c) :=
  inferInstanceAs (Decidable (_ ∨ _))

/-- A label has 1 to 63 characters and no hyphen at its ends. -/
structure Label (s : List Char) : Prop where
  length_pos : 1 ≤ s.length
  length_le : s.length ≤ 63
  chars : ∀ c ∈ s, LabelChar c
  head : s.head? ≠ some '-'
  last : s.getLast? ≠ some '-'

/-- A domain is a label, or a label, a dot and a domain. -/
inductive Domain : List Char → Prop where
  | label {s} (h : Label s) : Domain s
  | dot {s rest} (h : Label s) (hrest : Domain rest) : Domain (s ++ '.' :: rest)

inductive Address : List Char → Prop where
  | mk {mailbox domain} (hne : mailbox ≠ []) (hchars : ∀ c ∈ mailbox, MailboxChar c)
      (hdomain : Domain domain) : Address (mailbox ++ '@' :: domain)

end Grammar

section Ends

lemma Domain.chars {s : List Char} (h : Domain s) : ∀ c ∈ s, LabelChar c ∨ c = '.' := by
  induction h with
  | label h => exact fun c hc => .inl (h.chars c hc)
  | dot h _ ih =>
    intro c hc
    obtain hc | hc := List.mem_append.1 hc
    · exact .inl (h.chars c hc)
    · obtain rfl | hc := List.mem_cons.1 hc
      · exact .inr rfl
      · exact ih c hc

lemma Domain.not_mem {s : List Char} (h : Domain s) {c : Char} (hc : ¬ LabelChar c)
    (hdot : c ≠ '.') : c ∉ s :=
  fun hmem => (h.chars c hmem).elim hc hdot

/-- A domain ends in a label, which has a last character. -/
lemma Domain.exists_getLast? {s : List Char} (h : Domain s) :
    ∃ c, LabelChar c ∧ s.getLast? = some c := by
  induction h with
  | @label s h =>
    have hne : s ≠ [] := List.length_pos_iff.1 h.length_pos
    exact ⟨s.getLast hne, h.chars _ (List.getLast_mem hne), List.getLast?_eq_some_getLast hne⟩
  | dot _ _ ih =>
    obtain ⟨c, hc, hlast⟩ := ih
    exact ⟨c, hc, by simp [List.getLast?_append, List.getLast?_cons, hlast]⟩

/-- An address has one at sign and no line break, and does not end in a dot. -/
lemma Address.ends {s : List Char} (h : Address s) :
    s.count '@' = 1 ∧ '\n' ∉ s ∧ s.getLast? ≠ some '.' := by
  obtain @⟨mailbox, domain, hne, hchars, hdomain⟩ := h
  have hmailbox : ∀ c, ¬ MailboxChar c → c ∉ mailbox := fun c hc hmem => hc (hchars c hmem)
  refine ⟨?_, ?_, ?_⟩
  · rw [List.count_append, List.count_cons_self,
      List.count_eq_zero.2 (hmailbox '@' (by decide)),
      List.count_eq_zero.2 (hdomain.not_mem (by decide) (by decide))]
  · simpa using ⟨hmailbox '\n' (by decide), hdomain.not_mem (by decide) (by decide)⟩
  · obtain ⟨c, hc, hlast⟩ := hdomain.exists_getLast?
    have hdot : c ≠ '.' := by
      rintro rfl
      exact absurd hc (by decide)
    simpa [List.getLast?_append, List.getLast?_cons, hlast] using hdot

end Ends

section Reader

lemma isAlphanum_iff {c : Char} : c.isAlphanum = true ↔ LetterOrDigit c := by
  unfold Char.isAlphanum Char.isAlpha Char.isUpper Char.isLower Char.isDigit LetterOrDigit
  simp only [Char.le_def, Bool.or_eq_true, Bool.and_eq_true, decide_eq_true_eq, ge_iff_le]
  tauto

lemma isLocalChar_iff {c : Char} : isLocalChar c = true ↔ MailboxChar c := by
  have hsigns : ∀ c, c ∈ localSigns ↔ c ∈ ".!#$%&'*+/=?^_\x60\x7b|\x7d~-".toList := fun c => by
    rw [localSigns]
    exact Iff.rfl
  rw [isLocalChar, Bool.or_eq_true, isAlphanum_iff, MailboxChar, List.contains_iff_mem, hsigns]

lemma isLabelChar_iff {c : Char} : isLabelChar c = true ↔ LabelChar c := by
  rw [isLabelChar, Bool.or_eq_true, isAlphanum_iff, LabelChar, beq_iff_eq]

lemma isLabel_iff {s : List Char} : isLabel s = true ↔ Label s := by
  simp only [isLabel, Bool.and_eq_true, decide_eq_true_eq, List.all_eq_true, isLabelChar_iff,
    bne_iff_ne, Bool.not_eq_true', List.isEmpty_eq_false_iff, ← List.length_pos_iff]
  constructor
  · rintro ⟨⟨⟨⟨hpos, hle⟩, hchars⟩, hhead⟩, hlast⟩
    exact ⟨hpos, hle, hchars, hhead, hlast⟩
  · rintro ⟨hpos, hle, hchars, hhead, hlast⟩
    exact ⟨⟨⟨⟨hpos, hle⟩, hchars⟩, hhead⟩, hlast⟩

/-- A label has no dot, so that dots separate labels only. -/
lemma Label.dot_not_mem {s : List Char} (h : Label s) : '.' ∉ s :=
  fun hdot => absurd (h.chars '.' hdot) (by decide)

lemma domain_joinChars {labels : List (List Char)} (hne : labels ≠ [])
    (hlabels : ∀ s ∈ labels, Label s) : Domain (joinChars ['.'] labels) := by
  induction labels with
  | nil => exact absurd rfl hne
  | cons s labels ih =>
    obtain ⟨hs, hrest⟩ := List.forall_mem_cons.1 hlabels
    cases labels with
    | nil => exact .label hs
    | cons t labels =>
      rw [joinChars_cons (by simp), List.append_assoc]
      exact .dot hs (ih (by simp) hrest)

lemma isDomain_iff {s : List Char} : isDomain s = true ↔ Domain s := by
  have hdot : ['.'] ≠ [] := by simp
  simp only [isDomain, List.all_eq_true, isLabel_iff]
  constructor
  · intro h
    rw [← joinChars_splitChars hdot s]
    exact domain_joinChars (splitChars_ne_nil _ _) h
  · intro h
    induction h with
    | label h =>
      rw [splitChars_eq_singleton hdot (by simpa [List.singleton_infix_iff] using h.dot_not_mem)]
      simpa using h
    | dot h _ ih =>
      rw [splitChars_append_char,
        splitChars_eq_singleton hdot (by simpa [List.singleton_infix_iff] using h.dot_not_mem)]
      simpa using ⟨h, ih⟩

lemma at_not_mem {s : List Char} (h : ∀ c ∈ s, MailboxChar c) : '@' ∉ s :=
  fun hat => absurd (h '@' hat) (by decide)

/-- A text is read as an address exactly if it is one. -/
lemma isEmail_iff {s : List Char} : isEmail s = true ↔ Address s := by
  rw [isEmail]
  constructor
  · intro h
    split at h
    · next mailbox domain hcut =>
      obtain ⟨rfl, -⟩ := cutChars?_char_iff.1 hcut
      simp only [Bool.and_eq_true, Bool.not_eq_true', List.isEmpty_eq_false_iff, List.all_eq_true,
        isLocalChar_iff, isDomain_iff] at h
      exact .mk h.1.1 h.1.2 h.2
    · cases h
  · rintro ⟨hne, hchars, hdomain⟩
    rw [cutChars?_char_iff.2 ⟨rfl, at_not_mem hchars⟩]
    simp only [Bool.and_eq_true, Bool.not_eq_true', List.isEmpty_eq_false_iff, List.all_eq_true,
      isLocalChar_iff, isDomain_iff]
    exact ⟨⟨hne, hchars⟩, hdomain⟩

end Reader

section Pattern

variable {p : Char → Prop} {s : List Char}

/-- The texts of one character of a class. -/
def oneOf (p : Char → Prop) : Language Char :=
  {s | ∃ c, p c ∧ s = [c]}

/-- Up to some number of texts of a language, one after another. -/
def upTo (n : ℕ) (l : Language Char) : Language Char :=
  {s | ∃ k ≤ n, s ∈ l ^ k}

def labelPattern : Language Char :=
  oneOf LetterOrDigit * (1 + upTo 61 (oneOf LabelChar) * oneOf LetterOrDigit)

def domainPattern : Language Char :=
  labelPattern * (oneOf (· = '.') * labelPattern)∗

def addressPattern : Language Char :=
  oneOf MailboxChar * (oneOf MailboxChar)∗ * oneOf (· = '@') * domainPattern

lemma mem_pow_oneOf {n : ℕ} : s ∈ oneOf p ^ n ↔ s.length = n ∧ ∀ c ∈ s, p c := by
  induction n generalizing s with
  | zero =>
    rw [pow_zero, Language.mem_one]
    cases s <;> simp
  | succ n ih =>
    rw [pow_succ', Language.mem_mul]
    constructor
    · rintro ⟨_, ⟨c, hc, rfl⟩, rest, hrest, rfl⟩
      obtain ⟨hlength, hall⟩ := ih.1 hrest
      exact ⟨by simp [hlength], List.forall_mem_cons.2 ⟨hc, hall⟩⟩
    · rintro ⟨hlength, hall⟩
      cases s with
      | nil => cases hlength
      | cons c s =>
        obtain ⟨hc, hall⟩ := List.forall_mem_cons.1 hall
        exact ⟨[c], ⟨c, hc, rfl⟩, s, ih.2 ⟨Nat.succ.inj hlength, hall⟩, rfl⟩

lemma mem_upTo_oneOf {n : ℕ} : s ∈ upTo n (oneOf p) ↔ s.length ≤ n ∧ ∀ c ∈ s, p c := by
  constructor
  · rintro ⟨k, hk, hs⟩
    obtain ⟨rfl, hall⟩ := mem_pow_oneOf.1 hs
    exact ⟨hk, hall⟩
  · rintro ⟨hlength, hall⟩
    exact ⟨s.length, hlength, mem_pow_oneOf.2 ⟨rfl, hall⟩⟩

lemma mem_kstar_oneOf : s ∈ (oneOf p)∗ ↔ ∀ c ∈ s, p c := by
  rw [Language.kstar_eq_iSup_pow, Language.mem_iSup]
  simp only [mem_pow_oneOf, exists_eq_left']

/-- At the ends of a label there are letters and digits. -/
lemma letterOrDigit_iff {c : Char} : LetterOrDigit c ↔ LabelChar c ∧ c ≠ '-' := by
  constructor
  · intro h
    refine ⟨.inl h, ?_⟩
    rintro rfl
    exact absurd h (by decide)
  · rintro ⟨h | h, hne⟩
    · exact h
    · exact absurd h hne

lemma label_singleton_iff {c : Char} : Label [c] ↔ LetterOrDigit c := by
  rw [letterOrDigit_iff]
  constructor
  · intro h
    exact ⟨h.chars c (by simp), by simpa using h.head⟩
  · rintro ⟨hc, hne⟩
    exact ⟨by simp, by simp, by simpa using hc, by simpa using hne, by simpa using hne⟩

lemma label_between_iff {c d : Char} {middle : List Char} :
    Label (c :: (middle ++ [d])) ↔ LetterOrDigit c ∧
      (middle.length ≤ 61 ∧ ∀ m ∈ middle, LabelChar m) ∧ LetterOrDigit d := by
  rw [letterOrDigit_iff, letterOrDigit_iff]
  constructor
  · intro h
    have hlength := h.length_le
    simp only [List.length_cons, List.length_append, List.length_nil] at hlength
    exact ⟨⟨h.chars c (by simp), by simpa using h.head⟩,
      ⟨by omega, fun m hm => h.chars m (by simp [hm])⟩,
      h.chars d (by simp), by simpa [List.getLast?_cons] using h.last⟩
  · rintro ⟨⟨hc, hcne⟩, ⟨hlength, hall⟩, hd, hdne⟩
    refine ⟨by simp, by simp; omega, ?_, by simpa using hcne,
      by simpa [List.getLast?_cons] using hdne⟩
    intro m hm
    simp only [List.mem_cons, List.mem_append, List.not_mem_nil, or_false] at hm
    obtain rfl | hm | rfl := hm
    · exact hc
    · exact hall m hm
    · exact hd

/-- A label is its first character alone, or that, up to 61 more and the last one. -/
lemma mem_labelPattern : s ∈ labelPattern ↔ Label s := by
  constructor
  · rintro ⟨_, ⟨c, hc, rfl⟩, _, rfl | ⟨middle, hmiddle, _, ⟨d, hd, rfl⟩, rfl⟩, rfl⟩
    · exact label_singleton_iff.2 hc
    · exact label_between_iff.2 ⟨hc, mem_upTo_oneOf.1 hmiddle, hd⟩
  · intro h
    cases s with
    | nil => exact absurd h.length_pos (by simp)
    | cons c rest =>
      obtain rfl | ⟨middle, d, rfl⟩ := List.eq_nil_or_concat' rest
      · exact ⟨[c], ⟨c, label_singleton_iff.1 h, rfl⟩, [], .inl rfl, rfl⟩
      · obtain ⟨hc, hmiddle, hd⟩ := label_between_iff.1 h
        exact ⟨[c], ⟨c, hc, rfl⟩, middle ++ [d],
          .inr ⟨middle, mem_upTo_oneOf.2 hmiddle, [d], ⟨d, hd, rfl⟩, rfl⟩, rfl⟩

lemma mem_domainPattern : s ∈ domainPattern ↔ Domain s := by
  constructor
  · rintro ⟨first, hfirst, _, ⟨parts, rfl, hparts⟩, rfl⟩
    -- each part in turn is a dot and the label that takes the place of the first one
    induction parts generalizing first with
    | nil => simpa using Domain.label (mem_labelPattern.1 hfirst)
    | cons part parts ih =>
      obtain ⟨⟨_, ⟨c, rfl, rfl⟩, next, hnext, rfl⟩, hmore⟩ := List.forall_mem_cons.1 hparts
      exact .dot (mem_labelPattern.1 hfirst) (ih next hnext hmore)
  · intro h
    induction h with
    | @label s h => exact ⟨s, mem_labelPattern.2 h, [], Language.nil_mem_kstar _, List.append_nil s⟩
    | @dot s _ h _ ih =>
      obtain ⟨next, hnext, more, hmore, rfl⟩ := ih
      refine ⟨s, mem_labelPattern.2 h, '.' :: (next ++ more), ?_, rfl⟩
      rw [← Language.one_add_self_mul_kstar_eq_kstar]
      exact .inr ⟨'.' :: next, ⟨['.'], ⟨'.', rfl, rfl⟩, next, hnext, rfl⟩, more, hmore, rfl⟩

lemma mem_addressPattern : s ∈ addressPattern ↔ Address s := by
  constructor
  · rintro ⟨_, ⟨_, ⟨_, ⟨c, hc, rfl⟩, more, hmore, rfl⟩, _, ⟨_, rfl, rfl⟩, rfl⟩, domain, hdomain,
      rfl⟩
    have haddress : Address (c :: more ++ '@' :: domain) :=
      .mk (List.cons_ne_nil c more) (List.forall_mem_cons.2 ⟨hc, mem_kstar_oneOf.1 hmore⟩)
        (mem_domainPattern.1 hdomain)
    simpa using haddress
  · rintro @⟨mailbox, domain, hne, hchars, hdomain⟩
    obtain ⟨c, more, rfl⟩ := List.exists_cons_of_ne_nil hne
    obtain ⟨hc, hmore⟩ := List.forall_mem_cons.1 hchars
    exact ⟨c :: more ++ ['@'], ⟨c :: more, ⟨[c], ⟨c, hc, rfl⟩, more, mem_kstar_oneOf.2 hmore, rfl⟩,
      ['@'], ⟨'@', rfl, rfl⟩, rfl⟩, domain, mem_domainPattern.2 hdomain, by simp⟩

end Pattern

/-- The rule on addresses passes the texts of the grammar and declines all else. The grammar and the
pattern are one language, and nothing stands before or behind an address. -/
theorem email_rule_passes_addresses (value : Tree) :
    (Turns Builtin.isEmail value value ↔ ∃ s, value = .text s ∧ Address s.toList) ∧
      (Declines Builtin.isEmail value ↔ ¬ ∃ s, value = .text s ∧ Address s.toList) ∧
      (∀ s, Address s ↔ s ∈ addressPattern) ∧
      ∀ s, Address s → s.count '@' = 1 ∧ '\n' ∉ s ∧ s.getLast? ≠ some '.' := by
  have htext : Builtin.textIs isEmail value = true ↔ ∃ s, value = .text s ∧ Address s.toList := by
    cases value <;> simp [Builtin.textIs, isEmail_iff]
  refine ⟨turns_test_iff.trans htext, ?_, fun s => mem_addressPattern.symm,
    fun s h => h.ends⟩
  rw [← htext, Bool.not_eq_true]
  exact declines_test_iff

/-- The address of a host with a label of this many letters. -/
def longAddress (n : ℕ) : Tree :=
  .text (.ofList ("a@".toList ++ List.replicate n 'b'))

/-- The longest label has 63 characters. -/
theorem label_of_63_letters_passes :
    Turns Builtin.isEmail (longAddress 63) (longAddress 63) ∧
      Declines Builtin.isEmail (longAddress 64) := by
  obtain ⟨hpasses, -, -, -⟩ := email_rule_passes_addresses (longAddress 63)
  obtain ⟨-, hdeclines, -, -⟩ := email_rule_passes_addresses (longAddress 64)
  refine ⟨hpasses.2 ⟨_, rfl, isEmail_iff.1 (by decide)⟩, hdeclines.2 ?_⟩
  rintro ⟨s, hs, haddress⟩
  obtain rfl := Tree.text.inj hs
  exact absurd (isEmail_iff.2 haddress) (by decide)

end RuleChain.Proofs
