import RuleChain.Builtin.Cast
import RuleChain.Proofs.ChainRun
import RuleChain.Proofs.Occurrences
import RuleChain.Proofs.RunSetup
import RuleChain.Proofs.SplitJoin

/-!
# Writing chains

A chain can be written from what it asks for: the name of each rule with its options. Main
statement: what is written is read back, name by name and option by option, although three
separators are searched for one after another and options may hold the brackets around them. All
ways to write a chain, as one text or token by token and with empty tokens anywhere, make the same
runs.
-/

namespace RuleChain.Proofs
open RuleChain.Text

section Tokens

variable {left right : List Char}

lemma split_bare (hleft : left ≠ []) (right : List Char) {name : List Char}
    (hname : ∀ c ∈ name, c ∉ left) : Call.split left right name = (name, []) := by
  rw [Call.split, cutChars?_eq_none hleft hname]

/-- Whatever the options are, the first left bracket is the one behind the name and the last right
bracket is the one behind the options. -/
lemma split_bracketed (hleft : left ≠ []) (hright : right ≠ []) {name : List Char}
    (hname : ∀ c ∈ name, c ∉ left) (options : List Char) :
    Call.split left right (name ++ (left ++ (options ++ right))) = (name, options) := by
  rw [Call.split, cutChars?_append hleft hname]
  simp only [cutLastChars?_append_self hright]

end Tokens

lemma apart_append {sep s t : String} (hs : Apart sep s) (ht : Apart sep t) :
    Apart sep (s ++ t) := by
  intro c hc
  rw [String.toList_append, List.mem_append] at hc
  exact hc.elim (hs c) (ht c)

lemma apart_join {sep delimiter : String} {pieces : List String} (hdelimiter : Apart sep delimiter)
    (hpieces : ∀ piece ∈ pieces, Apart sep piece) : Apart sep (join delimiter pieces) := by
  induction pieces with
  | nil => simp [Apart, join, joinChars]
  | cons piece pieces ih =>
    have hpiece := hpieces piece List.mem_cons_self
    cases pieces with
    | nil => simpa [join, joinChars] using hpiece
    | cons next pieces =>
      rw [join_cons (List.cons_ne_nil _ _)]
      refine apart_append (apart_append hpiece hdelimiter) (ih ?_)
      intro later hlater
      exact hpieces later (List.mem_cons_of_mem _ hlater)

/-- A join of pieces is empty only if there is nothing to join. -/
lemma join_eq_empty {delimiter : String} (hdelimiter : delimiter ≠ "") {pieces : List String}
    (h : join delimiter pieces = "") : pieces = [] ∨ pieces = [""] := by
  cases pieces with
  | nil => exact .inl rfl
  | cons piece pieces =>
    cases pieces with
    | nil => simpa [join, joinChars] using h
    | cons next pieces =>
      rw [join_cons (List.cons_ne_nil _ _)] at h
      simp [hdelimiter] at h

/-- What a call asks for: a rule by its name, and options. -/
structure Request where
  name : String
  options : List String
  deriving DecidableEq

namespace Request

/-- The token of a request: the name, and the options in brackets if there are any. -/
def token (settings : Settings) (request : Request) : String :=
  if request.options = [] then request.name
  else request.name ++ (settings.optionLeft ++
    (join settings.optionDelimiter request.options ++ settings.optionRight))

/-- What a call that was read asks for. -/
def ofCall (settings : Settings) (call : Call) : Request :=
  ⟨call.name, Invocation.options ⟨call, settings⟩⟩

/-- A request that can be told from its token. One empty option would look like no options. -/
structure Writable (settings : Settings) (request : Request) : Prop where
  name_ne : request.name ≠ ""
  name_trimmed : trim request.name = request.name
  name_apart : Apart settings.optionLeft request.name
  options_trimmed : ∀ option ∈ request.options, trim option = option
  options_apart : ∀ option ∈ request.options, Apart settings.optionDelimiter option
  options_ne : request.options ≠ [""]
  apart_name : Apart settings.ruleDelimiter request.name
  apart_options : ∀ option ∈ request.options, Apart settings.ruleDelimiter option

end Request

/-- The rule delimiter has no character in common with the tokens inside calls. -/
structure RulesApart (settings : Settings) : Prop where
  left : Apart settings.ruleDelimiter settings.optionLeft
  right : Apart settings.ruleDelimiter settings.optionRight
  options : Apart settings.ruleDelimiter settings.optionDelimiter

/-- A chain is a way to write some tokens: one text or a list, with empty tokens anywhere. -/
inductive Spells (settings : Settings) (tokens : List String) : Chain → Prop where
  | text {padded} (h : padded.filter (· ≠ "") = tokens) :
      Spells settings tokens (.text (join settings.ruleDelimiter padded))
  | tokens {padded} (h : padded.filter (· ≠ "") = tokens) : Spells settings tokens (.tokens padded)

section Writing

variable {settings : Settings} (hcheck : settings.check = .ok ())

include hcheck

lemma left_ne_nil : settings.optionLeft.toList ≠ [] := by
  obtain ⟨-, hleft, -, -⟩ := Settings.check_eq_ok_iff.1 hcheck
  simpa using hleft

lemma right_ne_nil : settings.optionRight.toList ≠ [] := by
  obtain ⟨-, -, hright, -⟩ := Settings.check_eq_ok_iff.1 hcheck
  simpa using hright

lemma delimiter_ne_nil : settings.optionDelimiter.toList ≠ [] := by
  obtain ⟨-, -, -, hdelimiter⟩ := Settings.check_eq_ok_iff.1 hcheck
  simpa using hdelimiter

/-- A token without a left bracket is all name. -/
lemma ofToken_name {name : String} (htrimmed : trim name = name)
    (hname : Apart settings.optionLeft name) :
    Call.ofToken settings name = ⟨name, "", name⟩ := by
  have hsplit := split_bare (left_ne_nil hcheck) settings.optionRight.toList hname
  rw [trim, trimWhere] at htrimmed
  simp [Call.ofToken, Call.parse, hsplit, htrimmed]

lemma ofToken_brackets {name : String} (htrimmed : trim name = name)
    (hname : Apart settings.optionLeft name) (options : String) :
    Call.ofToken settings (name ++ (settings.optionLeft ++ (options ++ settings.optionRight))) =
      ⟨name, options, name ++ (settings.optionLeft ++ (options ++ settings.optionRight))⟩ := by
  have hsplit := split_bracketed (left_ne_nil hcheck) (right_ne_nil hcheck) hname options.toList
  rw [trim, trimWhere] at htrimmed
  simp only [Call.ofToken, Call.parse, String.toList_append, hsplit]
  simp [htrimmed]

lemma isBlank_empty : (Call.ofToken settings "").isBlank = true := by
  have hbare := split_bare (left_ne_nil hcheck) settings.optionRight.toList
    (List.forall_mem_nil _)
  simp [Call.isBlank, Call.ofToken, Call.parse, hbare, trimChars, trimStartChars, trimEndChars]

variable {request : Request} (hrequest : request.Writable settings)

include hrequest

lemma ofToken_bare (hoptions : request.options = []) :
    Call.ofToken settings (request.token settings) = ⟨request.name, "", request.name⟩ := by
  rw [Request.token, if_pos hoptions]
  exact ofToken_name hcheck hrequest.name_trimmed hrequest.name_apart

lemma ofToken_bracketed (hoptions : request.options ≠ []) :
    Call.ofToken settings (request.token settings) =
      ⟨request.name, join settings.optionDelimiter request.options, request.token settings⟩ := by
  rw [Request.token, if_neg hoptions]
  exact ofToken_brackets hcheck hrequest.name_trimmed hrequest.name_apart _

lemma name_ofToken : (Call.ofToken settings (request.token settings)).name = request.name := by
  by_cases hoptions : request.options = []
  · rw [ofToken_bare hcheck hrequest hoptions]
  · rw [ofToken_bracketed hcheck hrequest hoptions]

/-- A request is read back from its token. -/
lemma ofCall_ofToken :
    Request.ofCall settings (Call.ofToken settings (request.token settings)) = request := by
  by_cases hoptions : request.options = []
  · rw [ofToken_bare hcheck hrequest hoptions, Request.ofCall, Invocation.options, if_pos rfl,
      ← hoptions]
  · obtain ⟨-, -, -, hdelimiter⟩ := Settings.check_eq_ok_iff.1 hcheck
    have hne : join settings.optionDelimiter request.options ≠ "" := by
      intro hempty
      exact (join_eq_empty hdelimiter hempty).elim hoptions hrequest.options_ne
    have htrim : request.options.map trim = request.options.map id :=
      List.map_congr_left hrequest.options_trimmed
    rw [ofToken_bracketed hcheck hrequest hoptions, Request.ofCall, Invocation.options, if_neg hne,
      split_join hdelimiter hoptions hrequest.options_apart, htrim, List.map_id]

omit hcheck in
lemma token_ne : request.token settings ≠ "" := by
  rw [Request.token]
  split
  · exact hrequest.name_ne
  · simp [hrequest.name_ne]

omit hcheck in
lemma apart_token (hrules : RulesApart settings) :
    Apart settings.ruleDelimiter (request.token settings) := by
  rw [Request.token]
  split
  · exact hrequest.apart_name
  · have hoptions := apart_join hrules.options hrequest.apart_options
    exact apart_append hrequest.apart_name
      (apart_append hrules.left (apart_append hoptions hrules.right))

end Writing

section Chains

variable {settings : Settings} {requests : List Request}
variable (hrequests : ∀ request ∈ requests, request.Writable settings)
variable {padded : List String} (hpadded : padded.filter (· ≠ "") = requests.map (·.token settings))

include hpadded

/-- Among the tokens with empty ones put in there are only these. -/
lemma eq_token_of_mem {token : String} (htoken : token ∈ padded) :
    token = "" ∨ ∃ request ∈ requests, request.token settings = token := by
  by_cases hempty : token = ""
  · exact .inl hempty
  · have hmem : token ∈ padded.filter (· ≠ "") := List.mem_filter.2 ⟨htoken, by simpa using hempty⟩
    rw [hpadded] at hmem
    exact .inr (List.mem_map.1 hmem)

include hrequests

/-- A chain is split into its tokens, and the empty ones among them name no rule. -/
lemma toTokens_text (hcheck : settings.check = .ok ()) (hrules : RulesApart settings)
    (hne : requests ≠ []) :
    (Chain.text (join settings.ruleDelimiter padded)).toTokens settings.ruleDelimiter = padded := by
  obtain ⟨hdelimiter, -⟩ := Settings.check_eq_ok_iff.1 hcheck
  apply split_join hdelimiter
  · rintro rfl
    exact hne (List.map_eq_nil_iff.1 hpadded.symm)
  · intro token htoken
    obtain rfl | ⟨request, hrequest, rfl⟩ := eq_token_of_mem hpadded htoken
    · simp [Apart]
    · exact apart_token (hrequests request hrequest) hrules

lemma named_ofToken (hcheck : settings.check = .ok ()) :
    (padded.map (Call.ofToken settings)).filter (fun call => !call.isBlank) =
      (requests.map (·.token settings)).map (Call.ofToken settings) := by
  have hblank : ∀ token ∈ padded,
      (!(Call.ofToken settings token).isBlank) = decide (token ≠ "") := by
    intro token htoken
    obtain rfl | ⟨request, hrequest, rfl⟩ := eq_token_of_mem hpadded htoken
    · simp [isBlank_empty hcheck]
    · have hwritable := hrequests request hrequest
      simp [Call.isBlank, name_ofToken hcheck hwritable, hwritable.name_ne, token_ne hwritable]
  simp only [List.filter_map, Function.comp_def, List.filter_congr hblank, hpadded]

end Chains

/-- However a chain is written, the calls in it that name a rule are those of the requests. -/
lemma namedCalls_of_spells {settings : Settings} (hcheck : settings.check = .ok ())
    (hrules : RulesApart settings) {requests : List Request} (hne : requests ≠ [])
    (hrequests : ∀ request ∈ requests, request.Writable settings) {rules : Chain}
    (hspells : Spells settings (requests.map (·.token settings)) rules) :
    namedCalls settings rules =
      (requests.map (·.token settings)).map (Call.ofToken settings) := by
  cases hspells with
  | text hpadded =>
    rw [namedCalls, Chain.calls, toTokens_text hrequests hpadded hcheck hrules hne]
    exact named_ofToken hrequests hpadded hcheck
  | tokens hpadded => exact named_ofToken hrequests hpadded hcheck

section Runs

variable {H : Type} [Judging H] {engine : Engine H} {rules rules' : Chain}

/-- A chain works through the calls in it that name a rule, and nothing else of it matters. -/
lemma applyChain_congr (h : namedCalls engine.settings rules = namedCalls engine.settings rules')
    (label : String) (value : Tree) :
    engine.applyChain label (rules.calls engine.settings) value =
      engine.applyChain label (rules'.calls engine.settings) value := by
  rw [← applyChain_namedCalls, ← applyChain_namedCalls engine label (rules'.calls engine.settings)]
  exact congrArg (engine.applyChain label · value) h

lemma value_congr (h : namedCalls engine.settings rules = namedCalls engine.settings rules')
    (input : Tree) (label : Option String) :
    engine.value input rules label = engine.value input rules' label := by
  have hchain := @applyChain_congr H _ engine.reset rules rules' h (Message.fieldLabel label "")
    input
  simp only [Engine.value, hchain]

lemma field_congr (h : namedCalls engine.settings rules = namedCalls engine.settings rules')
    (key : String) (label : Option String) :
    engine.field ⟨key, rules, label⟩ = engine.field ⟨key, rules', label⟩ := by
  have hchain := @applyChain_congr H _ { engine with currentKey := key } rules rules' h
    (Message.fieldLabel label key) (engine.fieldValue key)
  simp only [Engine.field, hchain]

lemma fields_congr (h : namedCalls engine.settings rules = namedCalls engine.settings rules')
    (before : List Field) (key : String) (label : Option String) (after : List Field) :
    engine.fields (before ++ ⟨key, rules, label⟩ :: after) =
      engine.fields (before ++ ⟨key, rules', label⟩ :: after) := by
  induction before generalizing engine with
  | nil => simp only [List.nil_append, Engine.fields, field_congr h]
  | cons f before ih =>
    have hsetup := field_sameSetup engine f
    rcases hfield : engine.field f with ⟨result, next⟩
    rw [hfield] at hsetup
    simp only [List.cons_append, Engine.fields, hfield]
    cases result with
    | error e => rfl
    | ok => exact ih (by rwa [hsetup.settings])

lemma values_congr (h : namedCalls engine.settings rules = namedCalls engine.settings rules')
    (input : Tree) (before : List Field) (key : String) (label : Option String)
    (after : List Field) :
    engine.values input (before ++ ⟨key, rules, label⟩ :: after) =
      engine.values input (before ++ ⟨key, rules', label⟩ :: after) := by
  have hfields := @fields_congr H _ { engine.reset with current := input } rules rules' h before key
    label after
  simp only [Engine.values, hfields]

end Runs

/-- Requests that are written as a chain are read back in order, each with its name and its options,
and the tokens of the chain are read the same one by one. Whether the chain is given as one text or
token by token, and wherever empty tokens are put in, a run on a value and a run with the chain at
one of its fields give the same answer and leave the same engine. -/
theorem written_chain_is_read_back {settings : Settings} (hcheck : settings.check = .ok ())
    (hrules : RulesApart settings) {requests : List Request} (hne : requests ≠ [])
    (hrequests : ∀ request ∈ requests, request.Writable settings) :
    let tokens := requests.map (·.token settings)
    let text := join settings.ruleDelimiter tokens
    ((Chain.text text).calls settings).map (Request.ofCall settings) = requests ∧
      (Chain.tokens tokens).calls settings = (Chain.text text).calls settings ∧
      ∀ (H : Type) [Judging H] (engine : Engine H), engine.settings = settings →
        ∀ rules rules', Spells settings tokens rules → Spells settings tokens rules' →
          (∀ input label, engine.value input rules label = engine.value input rules' label) ∧
          ∀ input before key label after,
            engine.values input (before ++ ⟨key, rules, label⟩ :: after) =
              engine.values input (before ++ ⟨key, rules', label⟩ :: after) := by
  intro tokens text
  have hfull : tokens.filter (· ≠ "") = tokens := by
    refine List.filter_eq_self.2 fun token htoken => ?_
    obtain ⟨request, hrequest, rfl⟩ := List.mem_map.1 htoken
    simpa using token_ne (hrequests request hrequest)
  have htext : (Chain.text text).calls settings = tokens.map (Call.ofToken settings) := by
    rw [Chain.calls, toTokens_text hrequests hfull hcheck hrules hne]
  refine ⟨?_, htext.symm, ?_⟩
  · have hread : ∀ request ∈ requests, Request.ofCall settings
        (Call.ofToken settings (request.token settings)) = request := fun request hrequest =>
      ofCall_ofToken hcheck (hrequests request hrequest)
    rw [htext, List.map_map, List.map_map]
    exact (List.map_congr_left hread).trans (List.map_id' requests)
  · rintro H _ engine rfl rules rules' hspells hspells'
    have hcalls := (namedCalls_of_spells hcheck hrules hne hrequests hspells).trans
      (namedCalls_of_spells hcheck hrules hne hrequests hspells').symm
    exact ⟨fun input label => value_congr hcalls input label,
      fun input before key label after => values_congr hcalls input before key label after⟩

section Sample

def pairedSettings : Settings :=
  { ruleDelimiter := "||", optionLeft := "[[", optionRight := "]]", optionDelimiter := ",," }

def pairedEngine : Engine Handler where
  settings := pairedSettings
  registry :=
    { names := [("trim", "cast::trim"), ("default", "cast::default")]
      handlers := [("cast::trim", Builtin.trim), ("cast::default", Builtin.default)] }
  delimiter := "."
  rejections := []
  currentKey := ""
  current := .null

/-- A rule without options and one with two, of which one holds brackets and one is empty. -/
def fillRequests : List Request := [⟨"trim", []⟩, ⟨"default", ["[[x]]", ""]⟩]

lemma fillRequests_tokens :
    fillRequests.map (·.token pairedSettings) = ["trim", "default[[[[x]],,]]"] := by rfl

lemma fillRequests_writable : ∀ request ∈ fillRequests, request.Writable pairedSettings := by
  have htrim : Request.Writable pairedSettings ⟨"trim", []⟩ :=
    ⟨by decide, by decide, by decide, by simp, by simp, by decide, by decide, by simp⟩
  have hdefault : Request.Writable pairedSettings ⟨"default", ["[[x]]", ""]⟩ :=
    ⟨by decide, by decide, by decide, by decide, by decide, by decide, by decide, by decide⟩
  simp [fillRequests, htrim, hdefault]

/-- The options are told from the brackets around them, and a blank text is filled with them however
the chain is given. -/
theorem bracketed_options_fill_blank_text :
    ((Chain.text "trim||default[[[[x]],,]]").calls pairedSettings).map
        (Request.ofCall pairedSettings) = fillRequests ∧
      (pairedEngine.value (.text " ") (.text "||trim||||default[[[[x]],,]]") none).1 =
        .ok (.text "[[x]],,") ∧
      (pairedEngine.values (.object [("note", .text " ")])
        [⟨"note", .tokens ["trim", "", "default[[[[x]],,]]"], none⟩]).1 =
          .ok (.object [("note", .text "[[x]],,")]) := by
  have hcheck : pairedSettings.check = .ok () := rfl
  have hrules : RulesApart pairedSettings := ⟨by decide, by decide, by decide⟩
  have hne : fillRequests ≠ [] := by decide
  obtain ⟨hread, -, hruns⟩ := written_chain_is_read_back hcheck hrules hne fillRequests_writable
  rw [fillRequests_tokens] at hread hruns
  have htext : join "||" ["trim", "default[[[[x]],,]]"] = "trim||default[[[[x]],,]]" := by rfl
  have hpadded : join "||" ["", "trim", "", "default[[[[x]],,]]"] =
      "||trim||||default[[[[x]],,]]" := by rfl
  have hplain : Spells pairedSettings ["trim", "default[[[[x]],,]]"]
      (.tokens ["trim", "default[[[[x]],,]]"]) := .tokens (by decide)
  have hone : Spells pairedSettings ["trim", "default[[[[x]],,]]"]
      (.text "||trim||||default[[[[x]],,]]") := hpadded ▸ .text (by decide)
  have hlist : Spells pairedSettings ["trim", "default[[[[x]],,]]"]
      (.tokens ["trim", "", "default[[[[x]],,]]"]) := .tokens (by decide)
  refine ⟨htext ▸ hread, ?_, ?_⟩
  · rw [(hruns Handler pairedEngine rfl _ _ hone hplain).1]
    with_unfolding_all rfl
  · have hvalues := (hruns Handler pairedEngine rfl _ _ hlist hplain).2
      (.object [("note", .text " ")]) [] "note" none []
    rw [List.nil_append] at hvalues
    rw [hvalues]
    with_unfolding_all rfl

end Sample

end RuleChain.Proofs
