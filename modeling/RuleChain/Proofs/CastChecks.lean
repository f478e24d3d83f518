import RuleChain.Builtin.Kind
import RuleChain.Proofs.IntegerCast
import RuleChain.Proofs.Verdicts

/-!
# Casts and checks

A cast makes values of one kind and leaves values of this kind as they are, and the check of the
kind passes what the cast makes. Casts that read a value as their check reads it decline just what
the check declines. Trimming and defaults change nothing the second time.
-/

namespace RuleChain.Proofs
open RuleChain.Text

/-- A cast comes to one verdict on a value, its results pass a check, and it leaves them alone. -/
structure Coherent (cast check : Handler) : Prop where
  turns_or_declines (value : Tree) : (∃ result, Turns cast value result) ∨ Declines cast value
  passes {value result : Tree} (h : Turns cast value result) : Turns check result result
  again {value result : Tree} (h : Turns cast value result) : Turns cast result result

/-- A cast takes what a check passes and declines what it declines. -/
structure TakesWhatPasses (cast check : Handler) : Prop where
  turns_iff (value : Tree) : (∃ result, Turns cast value result) ↔ Turns check value value
  declines_iff (value : Tree) : Declines cast value ↔ Declines check value

/-- A handler leaves alone what it has made, if it is called in the same way once more. -/
def Idempotent (handler : Handler) : Prop :=
  ∀ settings registry call value, ∃ result,
    Handler.judge settings registry handler call value = .ok (.proceed result) ∧
      Handler.judge settings registry handler call result = .ok (.proceed result)

section Handlers

variable {accepts : Tree → Bool} {template other : String} {value result : Tree}

lemma coherent_convert {f : Tree → Option Tree}
    (haccepts : ∀ value result, f value = some result → accepts result = true)
    (hagain : ∀ value result, f value = some result → f result = some result) :
    Coherent (.convert f template) (.test accepts other) where
  turns_or_declines value := by
    simp only [turns_convert_iff, declines_convert_iff]
    cases f value <;> simp
  passes h := turns_test_iff.2 (haccepts _ _ (turns_convert_iff.1 h))
  again h := turns_convert_iff.2 (hagain _ _ (turns_convert_iff.1 h))

lemma coherent_transform {f : Tree → Tree} (haccepts : ∀ value, accepts (f value) = true)
    (hagain : ∀ value, f (f value) = f value) :
    Coherent (.transform fun _ value => f value) (.test accepts template) where
  turns_or_declines value := .inl ⟨f value, turns_transform_iff.2 rfl⟩
  passes {value result} h := by
    obtain rfl := turns_transform_iff.1 h
    exact turns_test_iff.2 (haccepts value)
  again {value result} h := by
    obtain rfl := turns_transform_iff.1 h
    exact turns_transform_iff.2 (hagain value)

/-- A cast and a check of one reading go together. -/
lemma takesWhatPasses_of_reading {α : Type} (reading : Tree → Option α) (make : α → Tree) :
    TakesWhatPasses (.convert (fun value => (reading value).map make) template)
      (.test (fun value => (reading value).isSome) other) where
  turns_iff value := by
    simp only [turns_convert_iff, turns_test_iff]
    cases reading value <;> simp
  declines_iff value := by
    simp only [declines_convert_iff, declines_test_iff]
    cases reading value <;> simp

/-- What a cast makes is read as it was made. -/
lemma coherent_of_reading {α : Type} {reading : Tree → Option α} {make : α → Tree}
    (hmake : ∀ a, reading (make a) = some a) :
    Coherent (.convert (fun value => (reading value).map make) template)
      (.test (fun value => (reading value).isSome) other) := by
  refine coherent_convert (fun value result h => ?_) fun value result h => ?_
  · obtain ⟨a, -, rfl⟩ := Option.map_eq_some_iff.1 h
    simp [hmake]
  · obtain ⟨a, -, rfl⟩ := Option.map_eq_some_iff.1 h
    simp [hmake]

lemma idempotent_transform {f : Invocation → Tree → Tree}
    (h : ∀ inv value, f inv (f inv value) = f inv value) : Idempotent (.transform f) := by
  intro settings registry call value
  refine ⟨f ⟨call, settings⟩ value, ?_, ?_⟩
  · rw [Handler.transform, Handler.judge]
  · rw [Handler.transform, Handler.judge]
    simp only [h]

end Handlers

section Integers

lemma word?_ofInt64 (i : Int64) : (Number.ofInt64 i).word? = some i := by
  have hlt : i.toInt < 0x8000000000000000 := i.toInt_lt
  rw [Number.ofInt64, Number.word?, if_pos hlt, Int64.ofInt_toInt]

lemma toInteger?_ofInt64 (i : Int64) : (Tree.ofInt64 i).toInteger? = some i := by
  rw [Tree.ofInt64, Tree.toInteger?, Number.toInt64?, word?_ofInt64]

lemma castInteger_ofInt64 (i : Int64) : (Tree.ofInt64 i).castInteger = i :=
  truncateInt64_of_toInt64? (toInteger?_ofInt64 i)

end Integers

section Trimming

/-- What is left between two trimmed ends is trimmed. -/
lemma trimChars_trimChars (p : Char → Bool) (s : List Char) :
    trimChars p (trimChars p s) = trimChars p s := by
  have hstart : trimStartChars p (trimChars p s) = trimChars p s := by
    refine trimStartChars_eq_self fun c hc => ?_
    -- its first character is that of the text without its start
    obtain ⟨rest, hrest⟩ := List.rdropWhile_prefix p (l := s.dropWhile p)
    have hfirst : (s.dropWhile p).head? = some c := by
      rw [← hrest]
      exact List.mem_head?_append_of_mem_head? hc
    have hnot := List.head?_dropWhile_not p s
    rwa [hfirst] at hnot
  rw [trimChars, hstart]
  exact List.rdropWhile_idempotent p (trimStartChars p s)

lemma trimWhere_trimWhere (p : Char → Bool) (s : String) :
    trimWhere p (trimWhere p s) = trimWhere p s := by
  rw [trimWhere, trimWhere, String.toList_ofList, trimChars_trimChars]

lemma idempotent_onText {f : Invocation → String → String}
    (h : ∀ inv s, f inv (f inv s) = f inv s) : Idempotent (Builtin.onText f) := by
  refine idempotent_transform fun inv value => ?_
  cases value with
  | text s => simp only [h]
  | _ => rfl

lemma idempotent_trim : Idempotent Builtin.trim := by
  refine idempotent_onText fun inv s => ?_
  split
  · exact trimWhere_trimWhere _ s
  · exact trimWhere_trimWhere _ s

/-- A blank default is put in the place of itself. -/
lemma idempotent_default : Idempotent Builtin.default := by
  refine idempotent_transform fun inv value => ?_
  by_cases h : value.isBlank
  · simp only [h, if_true, ite_self]
  · simp only [h, Bool.false_eq_true, if_false]

end Trimming

lemma coherent_castInteger : Coherent Builtin.castInteger Builtin.isInteger := by
  refine coherent_transform (fun value => ?_) fun value => ?_
  · rw [toInteger?_ofInt64, Option.isSome_some]
  · rw [castInteger_ofInt64]

lemma coherent_toText : Coherent Builtin.toText Builtin.isText := by
  refine coherent_convert (fun value result h => ?_) fun value result h => ?_
  · obtain ⟨-, hresult⟩ := Option.ite_none_left_eq_some.1 h
    obtain rfl := Option.some.inj hresult
    rfl
  · obtain ⟨-, hresult⟩ := Option.ite_none_left_eq_some.1 h
    obtain rfl := Option.some.inj hresult
    rfl

lemma coherent_toBoolean : Coherent Builtin.toBoolean Builtin.isBoolean :=
  coherent_transform (fun _ => rfl) fun _ => rfl

/-- Casts and checks agree: the strict casts take just what their checks pass, and decline the rest
without a change; what a cast makes passes its check and stays as it is under the same cast, and
what the lenient integer cast makes stays under the strict one; to trim or to default twice is to do
it once. -/
theorem casts_agree_with_checks :
    TakesWhatPasses Builtin.toInteger Builtin.isInteger ∧
      TakesWhatPasses Builtin.toFloat Builtin.isNumber ∧
      Coherent Builtin.toInteger Builtin.isInteger ∧
      Coherent Builtin.castInteger Builtin.isInteger ∧
      Coherent Builtin.toFloat Builtin.isNumber ∧
      Coherent Builtin.toText Builtin.isText ∧
      Coherent Builtin.toBoolean Builtin.isBoolean ∧
      (∀ value result, Turns Builtin.castInteger value result →
        Turns Builtin.toInteger result result) ∧
      Idempotent Builtin.trim ∧ Idempotent Builtin.default := by
  refine ⟨takesWhatPasses_of_reading _ _, takesWhatPasses_of_reading _ _,
    coherent_of_reading toInteger?_ofInt64, coherent_castInteger,
    coherent_of_reading fun x => rfl, coherent_toText, coherent_toBoolean, ?_, idempotent_trim,
    idempotent_default⟩
  intro value result h
  obtain rfl := turns_transform_iff.1 h
  exact turns_convert_iff.2 (by rw [toInteger?_ofInt64, Option.map_some])

/-- The lenient cast makes a number of a truth value, which the strict one and the check decline. -/
theorem truth_is_cast_to_one :
    Turns Builtin.castInteger (.bool true) (.ofInt64 1) ∧
      Turns Builtin.toInteger (.ofInt64 1) (.ofInt64 1) ∧
      Declines Builtin.toInteger (.bool true) ∧ Declines Builtin.isInteger (.bool true) := by
  obtain ⟨hinteger, -, -, -, -, -, -, hlenient, -, -⟩ := casts_agree_with_checks
  have hcast : Turns Builtin.castInteger (.bool true) (.ofInt64 1) := turns_transform_iff.2 rfl
  have hdeclines : Declines Builtin.toInteger (.bool true) := declines_convert_iff.2 rfl
  exact ⟨hcast, hlenient _ _ hcast, hdeclines, (hinteger.declines_iff _).1 hdeclines⟩

end RuleChain.Proofs
