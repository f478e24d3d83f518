import Mathlib.Tactic.Lemma
import RuleChain.Builtin.Secret
import RuleChain.Proofs.IntegerBounds

/-!
# Checking passwords

A record that was made of a password is put into the text of a chain, from which it is read back as
the one option of a rule. Main statement: the rule accepts the password it was made of, and no other
text. A password may be given as a number or a boolean, of which the text form is hashed; the rule
then accepts this text form, but not the number or the boolean itself.
-/

namespace RuleChain.Proofs
open RuleChain.Text RuleChain.Password

/-- What is relied on where a record is made of a password by one scheme and read by another, which
may use another salt. There are fewer records than passwords, so this is asked of a password and not
of all of them at once. -/
structure Recognises (making reading : PasswordScheme) (password record : String) : Prop where
  made : making.record? password = some record
  wellFormed : (HashRecord.read? record.toList).isSome = true
  plain : Apart "[]|" record
  tested : ∃ verify, reading.verifier? record = some verify ∧
    ∀ other, verify other = true ↔ other = password

lemma Recognises.ne_empty {making reading : PasswordScheme} {password record : String}
    (h : Recognises making reading password record) : record ≠ "" := by
  rintro rfl
  cases h.wellFormed

lemma Recognises.apart_bar {making reading : PasswordScheme} {password record : String}
    (h : Recognises making reading password record) : Apart "|" record := by
  intro c hc hmem
  obtain rfl := List.mem_singleton.1 hmem
  exact h.plain '|' hc (by decide)

/-- The rule that compares a value with a record. -/
def recordRule (record : String) : String :=
  "passwordVerify[" ++ record ++ "]"

section Calls

variable {settings : Settings} (h : UsualTokens settings)

include h

/-- A text without the rule delimiter is a chain of one call. -/
lemma namedCalls_of_apart {token : String} (htoken : Apart "|" token)
    (hname : (Call.ofToken settings token).name ≠ "") :
    namedCalls settings (.text token) = [Call.ofToken settings token] := by
  have hbar : '|' ∈ "|".toList := by decide
  have hinside : ¬"|".toList <:+: token.toList := fun hinside =>
    htoken '|' (hinside.subset hbar) hbar
  rw [namedCalls, Chain.calls, Chain.toTokens, h.rules, split_eq_singleton (by decide) hinside]
  simp [Call.isBlank, hname]

lemma LetterName.apart_left {name : String} (hname : LetterName name) :
    Apart settings.optionLeft name := by
  rw [h.left]
  exact hname.apart (by simp)

lemma namedCalls_name {name : String} (hname : LetterName name) :
    namedCalls settings (.text name) = [⟨name, "", name⟩] := by
  have hcall := ofToken_name h.check hname.trimmed (hname.apart_left h)
  have hnamed : (Call.ofToken settings name).name ≠ "" := by
    rw [hcall]
    exact hname.ne
  rw [namedCalls_of_apart h (hname.apart (by simp)) hnamed, hcall]

/-- The options of the one call are the record, commas and all. -/
lemma namedCalls_recordRule {record : String} (hrecord : Apart "|" record) :
    namedCalls settings (.text (recordRule record)) =
      [⟨"passwordVerify", record, recordRule record⟩] := by
  have hname : LetterName "passwordVerify" := ⟨by decide, by decide⟩
  have htoken : "passwordVerify" ++ (settings.optionLeft ++ (record ++ settings.optionRight)) =
      recordRule record := by
    rw [h.left, h.right, ← String.append_assoc, ← String.append_assoc]
    rfl
  have hcall := ofToken_brackets h.check hname.trimmed (hname.apart_left h) record
  rw [htoken] at hcall
  have hbar : Apart "|" (recordRule record) :=
    apart_append (apart_append (by decide) hrecord) (by decide)
  have hnamed : (Call.ofToken settings (recordRule record)).name ≠ "" := by
    rw [hcall]
    exact hname.ne
  rw [namedCalls_of_apart h hbar hnamed, hcall]

end Calls

section Judgements

variable {settings : Settings} {registry : Registry Handler} {call : Call} {value : Tree}
variable {making reading : PasswordScheme} {password record : String}

lemma judged_of_plain {judge : Invocation → Tree → Judgement}
    (hresolve : registry.resolve call.name = .ok (.plain judge)) :
    judged settings registry call value = judge ⟨call, settings⟩ value := by
  simp only [judged, hresolve, Judging.judge, Handler.judge]

lemma judged_toPasswordHash
    (hresolve : registry.resolve call.name = .ok (Builtin.toPasswordHash making))
    (hcontainer : value.isContainer = false) (hnull : value.isNull = false)
    (hmade : making.record? value.plainText = some record) :
    judged settings registry call value = .ok (.proceed (.text record)) := by
  rw [judged_of_plain hresolve]
  simp only [hcontainer, hnull, hmade, Bool.or_false, Bool.false_eq_true, if_false]

lemma judged_passwordVerify
    (hresolve : registry.resolve call.name = .ok (Builtin.passwordVerify reading))
    (hoptions : call.options = record) (h : Recognises making reading password record) :
    ∃ ok, (ok = true ↔ value = .text password) ∧
      judged settings registry call value = .ok (.check ok "%s does not match." value) := by
  obtain ⟨verify, hverify, htest⟩ := h.tested
  have hgiven : Invocation.hasOptions ⟨call, settings⟩ = true := by
    simp [Invocation.hasOptions, hoptions, h.ne_empty]
  rw [judged_of_plain hresolve]
  simp only [hgiven, hoptions, hverify, Bool.not_true, Bool.false_eq_true, if_false]
  cases value with
  | text other => exact ⟨verify other, by simpa using htest other, rfl⟩
  | _ => exact ⟨false, by simp, rfl⟩

end Judgements

section Runs

variable {H : Type} [Judging H] {engine : Engine H} {rules : Chain} {call : Call} {value : Tree}

/-- A rule that only accepts or refuses leaves the value, and refuses it in one record. -/
lemma value_of_check {ok : Bool} {template : String}
    (hcalls : namedCalls engine.settings rules = [call])
    (hjudged : judged engine.settings engine.registry call value =
      .ok (.check ok template value)) (label : Option String) :
    (engine.value value rules label).2.current = value ∧
      (ok = false → (engine.value value rules label).2.rejections =
        [refusal engine.settings "" (Message.fieldLabel label "") call template value]) := by
  have hends := chainEnds_of_check hjudged
  rw [← hcalls] at hends
  rw [value_of_chainEnds hends]
  cases ok <;> simp [answerOf]

end Runs

section Passwords

variable {making reading : PasswordScheme} {password record : String}

lemma value_toPasswordHash {engine : Engine Handler} (htokens : UsualTokens engine.settings)
    (hresolve : engine.registry.resolve "toPasswordHash" = .ok (Builtin.toPasswordHash making))
    {value : Tree} (hcontainer : value.isContainer = false) (hnull : value.isNull = false)
    (hmade : making.record? value.plainText = some record) (label : Option String) :
    (engine.value value (.text "toPasswordHash") label).1 = .ok (.text record) ∧
      (engine.value value (.text "toPasswordHash") label).2.rejections = [] := by
  have hname : LetterName "toPasswordHash" := ⟨by decide, by decide⟩
  have hcalls := namedCalls_name htokens hname
  have hjudged : judged engine.settings engine.registry
      ⟨"toPasswordHash", "", "toPasswordHash"⟩ value = .ok (.proceed (.text record)) :=
    judged_toPasswordHash hresolve hcontainer hnull hmade
  have hends : ChainEnds engine.settings engine.registry
      (namedCalls engine.settings (.text "toPasswordHash")) value (.through (.text record)) := by
    rw [hcalls]
    exact .through (.cons (gives_iff.2 hjudged) (.nil _))
  rw [value_of_chainEnds hends]
  exact ⟨rfl, rfl⟩

variable {engine : Engine Handler} (htokens : UsualTokens engine.settings)
variable (hresolve :
  engine.registry.resolve "passwordVerify" = .ok (Builtin.passwordVerify reading))
variable (hrecord : Recognises making reading password record)

include htokens hresolve hrecord

/-- The rule accepts the text of the password alone; it leaves every other value and refuses it. -/
lemma value_recordRule (label : Option String) (value : Tree) :
    let run := engine.value value (.text (recordRule record)) label
    run.2.current = value ∧
      (Passes engine label (.text (recordRule record)) value ↔ value = .text password) ∧
      (value ≠ .text password → ∃ rejection, run.2.rejections = [rejection] ∧
        rejection.template = "%s does not match.") := by
  intro run
  have hcalls := namedCalls_recordRule htokens hrecord.apart_bar
  let call : Call := ⟨"passwordVerify", record, recordRule record⟩
  have hcall : engine.registry.resolve call.name = .ok (Builtin.passwordVerify reading) := hresolve
  obtain ⟨ok, hok, hjudged⟩ := judged_passwordVerify hcall rfl hrecord
  obtain ⟨hcurrent, hrefused⟩ := value_of_check hcalls hjudged label
  refine ⟨hcurrent, (passes_iff_of_judged hcalls hjudged label).trans hok, fun hne => ?_⟩
  have hfails : ok = false := Bool.eq_false_iff.2 fun htrue => hne (hok.1 htrue)
  exact ⟨_, hrefused hfails, rfl⟩

end Passwords

/-- What becomes of a password, given as a text, a number or a boolean, and the record that is made
of its text form. The rule with the record as its option leaves every value as it is. It accepts the
text form of the password and refuses all else in one record: all other texts, and also the password
itself where this was a number or a boolean. -/
theorem record_of_password_accepts_its_text {hasher verifier : Engine Handler}
    {making reading : PasswordScheme} (hhasher : UsualTokens hasher.settings)
    (hmaking : hasher.registry.resolve "toPasswordHash" = .ok (Builtin.toPasswordHash making))
    (hverifier : UsualTokens verifier.settings)
    (hreading :
      verifier.registry.resolve "passwordVerify" = .ok (Builtin.passwordVerify reading))
    {value : Tree} (hcontainer : value.isContainer = false) (hnull : value.isNull = false)
    {record : String} (hrecord : Recognises making reading value.plainText record)
    (label label' : Option String) :
    let made := hasher.value value (.text "toPasswordHash") label
    let rules := Chain.text (recordRule record)
    (made.1 = .ok (.text record) ∧ made.2.rejections = []) ∧
      (∀ other, (verifier.value other rules label').2.current = other) ∧
      (∀ other, Passes verifier label' rules other ↔ other = .text value.plainText) ∧
      (∀ other, other ≠ .text value.plainText → ∃ rejection,
        (verifier.value other rules label').2.rejections = [rejection] ∧
          rejection.template = "%s does not match.") ∧
      (Passes verifier label' rules value ↔ ∃ password, value = .text password) := by
  intro made rules
  have hrun := value_recordRule hverifier hreading hrecord label'
  refine ⟨value_toPasswordHash hhasher hmaking hcontainer hnull hrecord.made label,
    fun other => (hrun other).1, fun other => (hrun other).2.1, fun other => (hrun other).2.2, ?_⟩
  rw [(hrun value).2.1]
  constructor
  · exact fun htext => ⟨_, htext⟩
  · rintro ⟨password, rfl⟩
    rfl

section Sample

/-- The record of the password 12345, with a salt that spells "pins and needles". -/
def pinRecord : String :=
  "$argon2id$v=19$m=19456,t=2,p=1$cGlucyBhbmQgbmVlZGxlcw$" ++
    "HdeZq3xwMHIotF6BG4/NKlYXiuMilR3cEIXQUAWiHW8"

/-- The scheme in use, save that the record of one password is known beforehand. -/
def pinScheme : PasswordScheme :=
  let argon2 := PasswordScheme.argon2 (bytesOf "pins and needles")
  { record? := fun password =>
      if password = "12345" then some pinRecord else argon2.record? password
    verifier? := fun record =>
      if record = pinRecord then some fun password => password = "12345"
      else argon2.verifier? record }

def pinEngine : Engine Handler where
  settings := {}
  registry :=
    { names := [("topasswordhash", "password::hash"), ("passwordverify", "password::verify")]
      handlers := [("password::hash", Builtin.toPasswordHash pinScheme),
        ("password::verify", Builtin.passwordVerify pinScheme)] }
  delimiter := "."
  rejections := []
  currentKey := ""
  current := .null

lemma pinEngine_tokens : UsualTokens pinEngine.settings := ⟨rfl, rfl, rfl, rfl⟩

lemma pinEngine_making :
    pinEngine.registry.resolve "toPasswordHash" = .ok (Builtin.toPasswordHash pinScheme) := rfl

lemma pinEngine_reading :
    pinEngine.registry.resolve "passwordVerify" = .ok (Builtin.passwordVerify pinScheme) := rfl

def pin : Tree :=
  .number (.integer 12345 (by decide))

lemma pin_plainText : pin.plainText = "12345" := rfl

lemma pin_recognised : Recognises pinScheme pinScheme pin.plainText pinRecord where
  made := by simp [pinScheme, pin_plainText]
  wellFormed := by rfl
  plain := by decide +kernel
  tested := ⟨fun password => password = "12345", by simp [pinScheme], by simp [pin_plainText]⟩

/-- The record that is made of a number accepts its digits and no other text. -/
theorem record_of_pin_accepts_digits :
    UsualTokens pinEngine.settings ∧ Recognises pinScheme pinScheme pin.plainText pinRecord ∧
      (pinEngine.value pin (.text "toPasswordHash") none).1 = .ok (.text pinRecord) ∧
      Passes pinEngine none (.text (recordRule pinRecord)) (.text "12345") ∧
      ¬Passes pinEngine none (.text (recordRule pinRecord)) (.text "12346") := by
  obtain ⟨⟨hmade, -⟩, -, hpasses, -⟩ := record_of_password_accepts_its_text pinEngine_tokens
    pinEngine_making pinEngine_tokens pinEngine_reading rfl rfl pin_recognised none none
  refine ⟨pinEngine_tokens, pin_recognised, hmade, (hpasses _).2 rfl, fun h => ?_⟩
  exact absurd ((hpasses _).1 h) (by simp [pin_plainText])

/-- The number of which the record was made is refused. -/
theorem pin_does_not_match_its_record :
    (pinEngine.value pin (.text "toPasswordHash") none).1 = .ok (.text pinRecord) ∧
      (pinEngine.value pin (.text "toPasswordHash") none).2.rejections = [] ∧
      ¬Passes pinEngine none (.text (recordRule pinRecord)) pin := by
  obtain ⟨hmade, hnothing⟩ :=
    value_toPasswordHash pinEngine_tokens pinEngine_making rfl rfl pin_recognised.made none
  refine ⟨hmade, hnothing, fun h => ?_⟩
  obtain ⟨-, hpasses, -⟩ :=
    value_recordRule pinEngine_tokens pinEngine_reading pin_recognised none pin
  cases hpasses.1 h

end Sample

end RuleChain.Proofs
