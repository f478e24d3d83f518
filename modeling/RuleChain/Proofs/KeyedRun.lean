import RuleChain.Builtin.Kind
import RuleChain.Proofs.ChainRun
import RuleChain.Proofs.WriteFrame

/-!
# Keyed runs

A keyed run takes its fields in order: the chain of a field runs on what is at its key in the
current tree, and the value as the chain leaves it is written back. Main statements: a run breaks
off at the first field whose chain or write gives a setup error and keeps exactly what the fields
before it have done; and fields at independent keys do not affect each other, so that a run in which
nothing is raised gives for each of them what its chain alone gives on the original tree.
-/

namespace RuleChain.Proofs

/-- What a field reads in a tree: null where nothing is, or the empty text where keys are flat. -/
def fieldInput (delimiter : String) (data : Tree) (key : String) : Tree :=
  match Path.lookup? delimiter data key with
  | some value => value
  | none => if delimiter = "" then .text "" else .null

def labelOf (f : Field) : String :=
  Message.fieldLabel f.label f.key

lemma fieldValue_eq {H : Type} (engine : Engine H) (key : String) :
    engine.fieldValue key = fieldInput engine.delimiter engine.current key := by
  unfold Engine.fieldValue fieldInput Path.lookupD
  cases Path.lookup? engine.delimiter engine.current key <;> rfl

section Fields

variable {H : Type} [Judging H] (settings : Settings) (registry : Registry H) (delimiter : String)

/-- The chain of a field ends on what the field reads in a tree. -/
def FieldEnds (data : Tree) (f : Field) (ending : Ending) : Prop :=
  ChainEnds settings registry (namedCalls settings f.rules) (fieldInput delimiter data f.key) ending

lemma exists_fieldEnds (data : Tree) (f : Field) :
    ∃ ending, FieldEnds settings registry delimiter data f ending :=
  (existsUnique_chainEnds settings registry _ _).exists

/-- Fields that are all written back, one after another, take a tree to another and leave records. -/
inductive Progress : Tree → List Field → Tree → List Rejection → Prop where
  | nil (data : Tree) : Progress data [] data []
  | cons {data f ending value next fs last records}
      (hchain : FieldEnds settings registry delimiter data f ending)
      (hvalue : ending.outcome = .ok value)
      (hwrite : Path.set delimiter data f.key value = (.ok (), next))
      (hrest : Progress next fs last records) :
      Progress data (f :: fs) last (ending.records settings f.key (labelOf f) ++ records)

/-- A field breaks a run off in a tree: its chain gives a setup error, or its value cannot be
written back, and then the record of its chain is kept. -/
inductive Breaks (data : Tree) (f : Field) : SetupError → List Rejection → Prop where
  | chain {e} (h : FieldEnds settings registry delimiter data f (.broken e)) : Breaks data f e []
  | write {ending value e} (hchain : FieldEnds settings registry delimiter data f ending)
      (hvalue : ending.outcome = .ok value)
      (hwrite : (Path.set delimiter data f.key value).1 = .error e) :
      Breaks data f (.write e) (ending.records settings f.key (labelOf f))

end Fields

section Sample

/-- An engine with two rules: one trims a text, and one refuses what is no text. -/
def textEngine : Engine Handler where
  settings := {}
  registry :=
    { names := [("trim", "cast::trim"), ("text", "types::is_string")]
      handlers := [("cast::trim", Builtin.trim), ("types::is_string", Builtin.isText)] }
  delimiter := "."
  rejections := []
  currentKey := ""
  current := .null

def member : Tree :=
  .object [("name", .text " Ada "), ("age", .bool true)]

def trimmedMember : Tree :=
  .object [("name", .text "Ada"), ("age", .bool true)]

def nameField : Field := ⟨"name", .text "trim|text", none⟩

def ageField : Field := ⟨"age", .text "text", some "the age"⟩

def firstNameField : Field := ⟨"name.first", .text "text", none⟩

lemma resolve_trim : textEngine.registry.resolve "trim" = .ok Builtin.trim := by rfl

lemma resolve_text : textEngine.registry.resolve "text" = .ok Builtin.isText := by rfl

lemma nameField_ends :
    FieldEnds textEngine.settings textEngine.registry textEngine.delimiter member nameField
      (.through (.text "Ada")) := by
  have hcalls : namedCalls textEngine.settings nameField.rules =
      [⟨"trim", "", "trim"⟩, ⟨"text", "", "text"⟩] := by rfl
  have htrim : Gives textEngine.settings textEngine.registry ⟨"trim", "", "trim"⟩
      (.text " Ada ") ⟨.proceed, .text "Ada"⟩ := ⟨_, resolve_trim, by cbv⟩
  have htext : Gives textEngine.settings textEngine.registry ⟨"text", "", "text"⟩
      (.text "Ada") ⟨.proceed, .text "Ada"⟩ := ⟨_, resolve_text, by cbv⟩
  unfold FieldEnds
  rw [hcalls]
  exact .through (.cons htrim (.cons htext (.nil _)))

lemma text_refuses {settings : Settings} {value : Tree} (h : value.kind ≠ .text) :
    EndsAt settings textEngine.registry ⟨"text", "", "text"⟩ value
      (.refused ⟨"text", "", "text"⟩ "%s must be text." value) := by
  have hgives : Gives settings textEngine.registry ⟨"text", "", "text"⟩ value
      ⟨.fail "%s must be text.", value⟩ := by
    refine ⟨_, resolve_text, ?_⟩
    simp [Judging.judge, Handler.judge, Builtin.isText, Handler.test, Verdict.check, Verdict.fail,
      h]
  exact .fail hgives

lemma ageField_ends :
    FieldEnds textEngine.settings textEngine.registry textEngine.delimiter trimmedMember ageField
      (.refused ⟨"text", "", "text"⟩ "%s must be text." (.bool true)) :=
  .cut (.nil _) (text_refuses (by decide)) []

lemma firstNameField_ends :
    FieldEnds textEngine.settings textEngine.registry textEngine.delimiter trimmedMember
      firstNameField (.refused ⟨"text", "", "text"⟩ "%s must be text." .null) :=
  .cut (.nil _) (text_refuses (by decide)) []

end Sample

section Runs

variable {H : Type} [Judging H]

lemma field_of_ends {engine : Engine H} {f : Field} {ending : Ending}
    (h : FieldEnds engine.settings engine.registry engine.delimiter engine.current f ending) :
    engine.field f =
      match ending.outcome with
      | .error e => (.error e, { engine with currentKey := "" })
      | .ok value =>
        let written := Path.set engine.delimiter engine.current f.key value
        (written.1.mapError .write, { engine with
          rejections := engine.rejections ++ ending.records engine.settings f.key (labelOf f)
          currentKey := ""
          current := written.2 }) := by
  have hrun := applyChain_of_chainEnds { engine with currentKey := f.key } (labelOf f) h
  simp only [Engine.field, fieldValue_eq]
  rw [labelOf] at hrun
  rw [hrun]
  cases ending <;> simp [afterChain, Ending.outcome, Ending.records, labelOf]

lemma field_of_written {engine : Engine H} {f : Field} {ending : Ending} {value next : Tree}
    (h : FieldEnds engine.settings engine.registry engine.delimiter engine.current f ending)
    (hvalue : ending.outcome = .ok value)
    (hwrite : Path.set engine.delimiter engine.current f.key value = (.ok (), next)) :
    engine.field f = (.ok (), { engine with
      rejections := engine.rejections ++ ending.records engine.settings f.key (labelOf f)
      currentKey := ""
      current := next }) := by
  rw [field_of_ends h, hvalue]
  simp only [hwrite]
  rfl

lemma field_of_breaks {engine : Engine H} {f : Field} {e : SetupError} {own : List Rejection}
    (h : Breaks engine.settings engine.registry engine.delimiter engine.current f e own) :
    engine.field f = (.error e, { engine with
      rejections := engine.rejections ++ own
      currentKey := "" }) := by
  cases h with
  | chain h => simp [field_of_ends h, Ending.outcome]
  | write hchain hvalue hwrite =>
    rw [field_of_ends hchain, hvalue]
    simp only [hwrite, set_error_unchanged hwrite]
    rfl

/-- Fields that are written back leave their records, and the rest runs on the tree they made. -/
theorem fields_of_progress {data last : Tree} {fs : List Field} {records : List Rejection}
    (engine : Engine H) (hcurrent : engine.current = data) (hkey : engine.currentKey = "")
    (h : Progress engine.settings engine.registry engine.delimiter data fs last records)
    (rest : List Field) :
    engine.fields (fs ++ rest) =
      { engine with
        rejections := engine.rejections ++ records
        current := last }.fields rest := by
  induction fs generalizing engine data records with
  | nil =>
    cases h
    subst hcurrent
    simp
  | cons f fs ih =>
    cases h with
    | cons hchain hvalue hwrite hrest =>
      subst hcurrent
      rw [List.cons_append, Engine.fields, field_of_written hchain hvalue hwrite]
      simp only
      rw [ih _ rfl rfl hrest]
      simp [hkey]

theorem progress_or_breaks (settings : Settings) (registry : Registry H) (delimiter : String)
    (data : Tree) (fs : List Field) :
    (∃ last records, Progress settings registry delimiter data fs last records) ∨
      ∃ done f rest last records e own, fs = done ++ f :: rest ∧
        Progress settings registry delimiter data done last records ∧
        Breaks settings registry delimiter last f e own := by
  induction fs generalizing data with
  | nil => exact .inl ⟨data, [], .nil data⟩
  | cons f fs ih =>
    obtain ⟨ending, hchain⟩ := exists_fieldEnds settings registry delimiter data f
    have hnil : Progress settings registry delimiter data [] data [] := .nil data
    cases hvalue : ending.outcome with
    | error e =>
      obtain rfl : ending = .broken e := by cases ending <;> simp_all [Ending.outcome]
      exact .inr ⟨[], f, fs, data, [], e, [], rfl, hnil, .chain hchain⟩
    | ok value =>
      rcases hwrite : Path.set delimiter data f.key value with ⟨result, next⟩
      cases result with
      | error e =>
        have hfails : (Path.set delimiter data f.key value).1 = .error e := by rw [hwrite]
        exact .inr ⟨[], f, fs, data, [], _, _, rfl, hnil, .write hchain hvalue hfails⟩
      | ok =>
        obtain ⟨last, records, hrest⟩ | ⟨done, g, rest, last, records, e, own, rfl, hdone, hg⟩ :=
          ih next
        · exact .inl ⟨last, _, .cons hchain hvalue hwrite hrest⟩
        · exact .inr ⟨f :: done, g, rest, last, _, e, own, rfl,
            .cons hchain hvalue hwrite hdone, hg⟩

theorem values_of_progress {engine : Engine H} {input last : Tree} {fs : List Field}
    {records : List Rejection}
    (h : Progress engine.settings engine.registry engine.delimiter input fs last records) :
    engine.values input fs =
      let after := { engine with rejections := records, currentKey := "", current := last }
      (after.finish, after) := by
  have hfields := fields_of_progress { engine.reset with current := input } rfl rfl h []
  rw [List.append_nil] at hfields
  simp only [Engine.values, hfields]
  simp [Engine.fields, Engine.reset]

theorem values_of_breaks {engine : Engine H} {input last : Tree} {done : List Field} {f : Field}
    {records own : List Rejection} {e : SetupError}
    (hdone : Progress engine.settings engine.registry engine.delimiter input done last records)
    (hf : Breaks engine.settings engine.registry engine.delimiter last f e own)
    (rest : List Field) :
    engine.values input (done ++ f :: rest) =
      (.error (.setup e), { engine with
        rejections := records ++ own
        currentKey := ""
        current := last }) := by
  have hfields := fields_of_progress { engine.reset with current := input } rfl rfl hdone (f :: rest)
  simp only [Engine.values, hfields, Engine.fields]
  rw [field_of_breaks hf]
  simp [Engine.reset]

/-- A keyed run gives a setup error exactly if a field breaks it off after the fields before it. -/
theorem values_eq_setup_error_iff {engine : Engine H} {input : Tree} {fs : List Field}
    {e : SetupError} :
    (engine.values input fs).1 = .error (.setup e) ↔
      ∃ done f rest last records own, fs = done ++ f :: rest ∧
        Progress engine.settings engine.registry engine.delimiter input done last records ∧
        Breaks engine.settings engine.registry engine.delimiter last f e own := by
  constructor
  · intro h
    obtain ⟨last, records, hall⟩ | ⟨done, f, rest, last, records, e', own, rfl, hdone, hf⟩ :=
      progress_or_breaks engine.settings engine.registry engine.delimiter input fs
    · rw [values_of_progress hall] at h
      simp only [Engine.finish] at h
      split at h <;> cases h
    · rw [values_of_breaks hdone hf] at h
      obtain rfl : e' = e := by simpa using h
      exact ⟨done, f, rest, last, records, own, rfl, hdone, hf⟩
  · rintro ⟨done, f, rest, last, records, own, rfl, hdone, hf⟩
    rw [values_of_breaks hdone hf]

/-- A setup error ends a run at once. In a keyed run the first field that breaks it off gives the
answer, whatever fields stand behind it and whether or not rejections are raised: the tree and the
records are those of the fields before it, with its own record only if its chain refused the value
and the write then failed, and no key is left behind. A run on one value leaves neither. -/
theorem setup_error_ends_run_cleanly (engine : Engine H) (input : Tree) :
    (∀ done f rest last records e own,
      Progress engine.settings engine.registry engine.delimiter input done last records →
      Breaks engine.settings engine.registry engine.delimiter last f e own →
      let run := engine.values input (done ++ f :: rest)
      run.1 = .error (.setup e) ∧ run.2.current = last ∧ run.2.rejections = records ++ own ∧
        ∀ template label options rule text,
          (run.2.addRejection template label options rule text).rejections =
            records ++ own ++ [.make "" template label options rule text]) ∧
    ∀ rules label e, (engine.value input rules label).1 = .error (.setup e) →
      (engine.value input rules label).2.rejections = [] ∧
        (engine.value input rules label).2.current = .null := by
  constructor
  · intro done f rest last records e own hdone hf
    rw [values_of_breaks hdone hf rest]
    exact ⟨rfl, rfl, rfl, fun template label options rule text => rfl⟩
  · intro rules label e h
    obtain ⟨ending, hends, -⟩ := existsUnique_chainEnds engine.settings engine.registry
      (namedCalls engine.settings rules) input
    rw [value_of_chainEnds hends] at h ⊢
    cases ending with
    | through value => cases h
    | stopped value => cases h
    | refused call template value =>
      simp only [answerOf] at h
      split at h <;> cases h
    | broken e' => exact ⟨rfl, rfl⟩

theorem write_below_text_ends_run_cleanly :
    (textEngine.values member [nameField, firstNameField, ageField]).1 =
        .error (.setup (.write (.notAContainer "first" .text))) ∧
      (textEngine.values member [nameField, firstNameField, ageField]).2.current =
        trimmedMember ∧
      (textEngine.values member [nameField, firstNameField, ageField]).2.rejections.map (·.key) =
        ["name.first"] := by
  have hdone : Progress textEngine.settings textEngine.registry textEngine.delimiter member
      [nameField] trimmedMember [] := .cons nameField_ends rfl (by rfl) (.nil _)
  have hbreaks : Breaks textEngine.settings textEngine.registry textEngine.delimiter trimmedMember
      firstNameField (.write (.notAContainer "first" .text)) _ :=
    .write firstNameField_ends rfl (by rfl)
  obtain ⟨hanswer, hcurrent, hrecords, -⟩ :=
    (setup_error_ends_run_cleanly textEngine member).1 [nameField] firstNameField [ageField] _ _ _ _
      hdone hbreaks
  exact ⟨hanswer, hcurrent, congrArg (List.map (·.key)) hrecords⟩

/-- The chain of a field run alone on what the field reads in a tree. -/
def runAlone (engine : Engine H) (data : Tree) (f : Field) : Answer Tree × Engine H :=
  engine.value (fieldInput engine.delimiter data f.key) f.rules (some (labelOf f))

lemma get?_of_progress {settings : Settings} {registry : Registry H} {delimiter : String}
    {data last : Tree} {fs : List Field} {records : List Rejection} {q : List String}
    (h : Progress settings registry delimiter data fs last records)
    (hq : ∀ f ∈ fs, Independent (Path.segments delimiter f.key) q) :
    last.get? q = data.get? q := by
  induction h with
  | nil => rfl
  | cons _ _ hwrite _ ih =>
    rw [ih fun f hf => hq f (by simp [hf])]
    exact get?_of_put_of_independent (hq _ (by simp)) hwrite

lemma fieldInput_congr {delimiter key : String} {data data' : Tree}
    (h : data'.get? (Path.segments delimiter key) = data.get? (Path.segments delimiter key)) :
    fieldInput delimiter data' key = fieldInput delimiter data key := by
  simp only [fieldInput, Path.lookup?, h]

lemma runAlone_of_ends {engine : Engine H} (hreport : engine.settings.raiseFailures = false)
    {data value : Tree} {f : Field} {ending : Ending}
    (h : FieldEnds engine.settings engine.registry engine.delimiter data f ending)
    (hvalue : ending.outcome = .ok value) :
    (runAlone engine data f).1 = .ok value ∧
      (runAlone engine data f).2.rejections =
        ending.records engine.settings "" (labelOf f) := by
  have hrun : runAlone engine data f = answerOf engine (labelOf f) ending := value_of_chainEnds h _
  rw [hrun]
  cases ending <;> simp_all [answerOf, Ending.outcome, Ending.records]

lemma length_rejections_runAlone_le (engine : Engine H) (data : Tree) (f : Field) :
    (runAlone engine data f).2.rejections.length ≤ 1 := by
  obtain ⟨ending, hends⟩ :=
    exists_fieldEnds engine.settings engine.registry engine.delimiter data f
  have hrun : runAlone engine data f = answerOf engine (labelOf f) ending :=
    value_of_chainEnds hends _
  rw [hrun]
  cases ending <;> simp [answerOf]

lemma records_map_key (settings : Settings) (key label : String) (ending : Ending) :
    (ending.records settings "" label).map (fun r => { r with key }) =
      ending.records settings key label := by
  cases ending <;> rfl

/-- Each field of a progress on independent keys does what its chain alone does on a tree where the
fields read the same. -/
theorem progress_alone {engine : Engine H} (hreport : engine.settings.raiseFailures = false)
    {input data last : Tree} {fs : List Field} {records : List Rejection}
    (h : Progress engine.settings engine.registry engine.delimiter data fs last records)
    (hkeys : fs.Pairwise fun f g => Independent (Path.segments engine.delimiter f.key)
      (Path.segments engine.delimiter g.key))
    (hread : ∀ f ∈ fs, data.get? (Path.segments engine.delimiter f.key) =
      input.get? (Path.segments engine.delimiter f.key)) :
    (∀ f ∈ fs, ∃ value, (runAlone engine input f).1 = .ok value ∧
      Path.lookup? engine.delimiter last f.key = some value) ∧
    records = fs.flatMap fun f =>
      (runAlone engine input f).2.rejections.map fun r => { r with key := f.key } := by
  induction h with
  | nil => simp
  | @cons data f ending value next fs last records hchain hvalue hwrite hrest ih =>
    obtain ⟨hfirst, hkeys⟩ := List.pairwise_cons.1 hkeys
    -- the later fields read what they read before this one was written back
    have hlater : ∀ g ∈ fs, next.get? (Path.segments engine.delimiter g.key) =
        input.get? (Path.segments engine.delimiter g.key) := by
      intro g hg
      rw [← hread g (by simp [hg])]
      exact get?_of_put_of_independent (hfirst g hg) hwrite
    obtain ⟨hvalues, hrecords⟩ := ih hkeys hlater
    have hends : FieldEnds engine.settings engine.registry engine.delimiter input f ending := by
      unfold FieldEnds at hchain ⊢
      rwa [fieldInput_congr (hread f (by simp))] at hchain
    obtain ⟨hanswer, hown⟩ := runAlone_of_ends hreport hends hvalue
    constructor
    · intro g hg
      rcases List.mem_cons.1 hg with rfl | hg
      · refine ⟨value, hanswer, ?_⟩
        rw [← lookup?_set hwrite]
        exact get?_of_progress hrest fun g hg => (hfirst g hg).symm
      · exact hvalues g hg
    · rw [List.flatMap_cons, hown, records_map_key, ← hrecords]

/-- Fields at independent keys do not affect each other. If rejections are not raised and the run
gives a tree, each key holds what the chain of its field alone makes of the original tree, the
records are those of the chains alone under the keys of their fields, in order and at most one a
field, and every path independent of the keys reads as before. -/
theorem keyed_run_isolates_fields (engine : Engine H)
    (hreport : engine.settings.raiseFailures = false) (input : Tree) (fs : List Field)
    (hkeys : fs.Pairwise fun f g => Independent (Path.segments engine.delimiter f.key)
      (Path.segments engine.delimiter g.key))
    {out : Tree} (hrun : (engine.values input fs).1 = .ok out) :
    (∀ f ∈ fs, ∃ value, (runAlone engine input f).1 = .ok value ∧
      Path.lookup? engine.delimiter out f.key = some value) ∧
    (engine.values input fs).2.rejections = (fs.flatMap fun f =>
      (runAlone engine input f).2.rejections.map fun r => { r with key := f.key }) ∧
    (∀ f ∈ fs, (runAlone engine input f).2.rejections.length ≤ 1) ∧
    ∀ q, (∀ f ∈ fs, Independent (Path.segments engine.delimiter f.key)
        (Path.segments engine.delimiter q)) →
      Path.lookup? engine.delimiter out q = Path.lookup? engine.delimiter input q := by
  obtain ⟨last, records, h⟩ | ⟨done, f, rest, last, records, e, own, rfl, hdone, hf⟩ :=
    progress_or_breaks engine.settings engine.registry engine.delimiter input fs
  · rw [values_of_progress h] at hrun ⊢
    obtain rfl : last = out := by simpa [Engine.finish, hreport] using hrun
    obtain ⟨hvalues, hrecords⟩ := progress_alone hreport h hkeys fun f _ => rfl
    refine ⟨hvalues, hrecords, ?_, fun q hq => get?_of_progress h hq⟩
    exact fun f _ => length_rejections_runAlone_le engine input f
  · rw [values_of_breaks hdone hf] at hrun
    cases hrun

theorem member_run_isolates_fields :
    (textEngine.values member [nameField, ageField]).1 = .ok trimmedMember ∧
    (∀ f ∈ [nameField, ageField], ∃ value, (runAlone textEngine member f).1 = .ok value ∧
      Path.lookup? "." trimmedMember f.key = some value) ∧
    (textEngine.values member [nameField, ageField]).2.rejections =
      [nameField, ageField].flatMap fun f =>
        (runAlone textEngine member f).2.rejections.map fun r => { r with key := f.key } := by
  have hall : Progress textEngine.settings textEngine.registry textEngine.delimiter member
      [nameField, ageField] trimmedMember _ :=
    .cons nameField_ends rfl (by rfl) (.cons ageField_ends rfl (by rfl) (.nil _))
  have hrun : (textEngine.values member [nameField, ageField]).1 = .ok trimmedMember := by
    rw [values_of_progress hall]
    rfl
  obtain ⟨hvalues, hrecords, -⟩ :=
    keyed_run_isolates_fields textEngine rfl member [nameField, ageField] (by decide) hrun
  exact ⟨hrun, hvalues, hrecords⟩

end Runs

end RuleChain.Proofs
