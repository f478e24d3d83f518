import RuleChain.Builtin.Catalog
import RuleChain.Proofs.LastEntry
import RuleChain.Proofs.LowerCase
import RuleChain.Proofs.NestedRegistry
import RuleChain.Proofs.RuleOrder

/-!
# Registrations

A registry is filled by calls that map names and hold handlers, in any order. Each call adds to two
histories, and what a registry answers is a matter of their last entries: the last mapping of a name
in whatever letter case, and the last handler under an identifier. An engine maps what its settings
list in the order of the names.
-/

namespace RuleChain.Proofs

section Registrations

variable {H : Type}

/-- A call that fills a registry. -/
inductive Registration (H : Type) where
  | rule (name id : String)
  | rules (mappings : List (String × String))
  | handler (id : String) (handler : H)
  | named (id : String) (names : List String) (handler : H)

namespace Registration

def on (registry : Registry H) : Registration H → Registry H
  | .rule name id => registry.addRule name id
  | .rules mappings => registry.addRules mappings
  | .handler id held => registry.addHandler id held
  | .named id names held => registry.register id names held

/-- The mappings that a call makes, in order. -/
def mappings : Registration H → List (String × String)
  | .rule name id => [(name, id)]
  | .rules mappings => mappings
  | .handler _ _ => []
  | .named id names _ => names.map fun name => (name, id)

/-- The handlers that a call puts in, with their identifiers. -/
def handlers : Registration H → List (String × H)
  | .rule _ _ => []
  | .rules _ => []
  | .handler id held => [(id, held)]
  | .named id _ held => [(id, held)]

end Registration

def registered (registry : Registry H) (calls : List (Registration H)) : Registry H :=
  calls.foldl Registration.on registry

/-- Names are distinct and in lower case, and so are identifiers distinct. -/
structure Orderly (registry : Registry H) : Prop where
  nodup_names : (Table.keys registry.names).Nodup
  lower_names : ∀ name ∈ Table.keys registry.names, Text.lower name = name
  nodup_handlers : (Table.keys registry.handlers).Nodup

/-- A registry is what mappings and handlers leave, each put in one after another. -/
structure Records (mappings : List (String × String)) (handlers : List (String × H))
    (registry : Registry H) : Prop where
  names : Holds Text.lower mappings registry.names
  handlers : Holds id handlers registry.handlers

lemma Orderly.records {registry : Registry H} (h : Orderly registry) :
    Records registry.names registry.handlers registry where
  names := holds_self h.nodup_names h.lower_names
  handlers := holds_self h.nodup_handlers fun _ _ => rfl

section Records

variable {mappings : List (String × String)} {handlers : List (String × H)}
  {registry : Registry H}

lemma Records.orderly (h : Records mappings handlers registry) : Orderly registry where
  nodup_names := h.names.nodup_keys
  lower_names name hname := by
    obtain ⟨mapping, -, rfl⟩ := h.names.mem_keys_iff.1 hname
    exact lower_lower mapping.1
  nodup_handlers := h.handlers.nodup_keys

lemma Records.addRule (h : Records mappings handlers registry) (name id : String) :
    Records (mappings ++ [(name, id)]) handlers (registry.addRule name id) where
  names := h.names.insert name id
  handlers := h.handlers

lemma Records.addRules (h : Records mappings handlers registry) (rules : List (String × String)) :
    Records (mappings ++ rules) handlers (registry.addRules rules) := by
  induction rules generalizing mappings registry with
  | nil => simpa [Registry.addRules] using h
  | cons rule rules ih => simpa [Registry.addRules] using ih (h.addRule rule.1 rule.2)

lemma Records.addHandler (h : Records mappings handlers registry) (id : String) (handler : H) :
    Records mappings (handlers ++ [(id, handler)]) (registry.addHandler id handler) where
  names := h.names
  handlers := h.handlers.insert id handler

/-- To map names to a handler that is put in is to put it in and to map them. -/
lemma register_eq (registry : Registry H) (id : String) (names : List String) (handler : H) :
    registry.register id names handler =
      (registry.addHandler id handler).addRules (names.map fun name => (name, id)) := by
  rw [Registry.register, Registry.addRules, List.foldl_map]

/-- A call adds to both histories. -/
lemma Records.on (h : Records mappings handlers registry) (call : Registration H) :
    Records (mappings ++ call.mappings) (handlers ++ call.handlers) (call.on registry) := by
  cases call with
  | rule name id =>
    rw [Registration.handlers, List.append_nil]
    exact h.addRule name id
  | rules rules =>
    rw [Registration.handlers, List.append_nil]
    exact h.addRules rules
  | handler id handler =>
    rw [Registration.mappings, List.append_nil]
    exact h.addHandler id handler
  | named id names handler =>
    rw [Registration.on, register_eq]
    exact (h.addHandler id handler).addRules _

lemma Records.registered (h : Records mappings handlers registry) (calls : List (Registration H)) :
    Records (mappings ++ calls.flatMap Registration.mappings)
      (handlers ++ calls.flatMap Registration.handlers) (registered registry calls) := by
  -- the histories grow on the way, so the induction is over all of them
  induction calls generalizing mappings handlers registry with
  | nil => simpa [Proofs.registered] using h
  | cons call calls ih => simpa [Proofs.registered] using ih (h.on call)

end Records

/-- Registries that are filled from the empty one are orderly. -/
theorem orderly_registered (calls : List (Registration H)) :
    Orderly (registered .empty calls) :=
  (Records.registered ⟨holds_nil, holds_nil⟩ calls).orderly

lemma orderly_empty : Orderly (.empty : Registry H) :=
  orderly_registered []

lemma orderly_catalog (entries : List (String × List String × H)) :
    Orderly (entries.foldl (fun r entry => r.register entry.1 entry.2.1 entry.2.2) .empty) := by
  have h := orderly_registered (entries.map fun entry => .named entry.1 entry.2.1 entry.2.2)
  rw [registered, List.foldl_map] at h
  exact h

theorem orderly_builtins (scheme : PasswordScheme) : Orderly (Registry.builtins scheme) :=
  orderly_catalog _

/-- What a name resolves to by the histories: the last handler under the identifier of the last
mapping, or what is missing on the way. -/
inductive Resolution (mappings : List (String × String)) (handlers : List (String × H))
    (name : String) : Except SetupError H → Prop where
  | handler {id handler} (hid : LastUnder (Text.lower · = Text.lower name) mappings id)
      (hhandler : LastUnder (· = id) handlers handler) :
      Resolution mappings handlers name (.ok handler)
  | unknownRule (h : ∀ mapping ∈ mappings, Text.lower mapping.1 ≠ Text.lower name) :
      Resolution mappings handlers name (.error (.unknownRule (Text.lower name)))
  | unknownHandler {id} (hid : LastUnder (Text.lower · = Text.lower name) mappings id)
      (h : ∀ entry ∈ handlers, entry.1 ≠ id) :
      Resolution mappings handlers name (.error (.unknownHandler (Text.lower name) id))

section Lookups

variable {mappings : List (String × String)} {handlers : List (String × H)}
  {registry : Registry H} (h : Records mappings handlers registry)
include h

lemma Records.handlerId?_iff {name id : String} :
    registry.handlerId? name = some id ↔ LastUnder (Text.lower · = Text.lower name) mappings id :=
  h.names.get?_eq_some_iff (Text.lower name) id

lemma Records.handlerId?_eq_none_iff {name : String} :
    registry.handlerId? name = none ↔
      ∀ mapping ∈ mappings, Text.lower mapping.1 ≠ Text.lower name := by
  rw [Registry.handlerId?, Table.get?_eq_none_iff, h.names.mem_keys_iff, not_exists]
  exact forall_congr' fun mapping => not_and

lemma Records.handler_eq_none_iff {id : String} :
    Table.get? registry.handlers id = none ↔ ∀ entry ∈ handlers, entry.1 ≠ id := by
  rw [Table.get?_eq_none_iff, h.handlers.mem_keys_iff, not_exists]
  exact forall_congr' fun entry => not_and

lemma Records.resolution (name : String) :
    Resolution mappings handlers name (registry.resolve name) := by
  unfold Registry.resolve
  cases hid : registry.handlerId? name with
  | none => exact .unknownRule (h.handlerId?_eq_none_iff.1 hid)
  | some id =>
    dsimp only
    cases hhandler : Table.get? registry.handlers id with
    | none => exact .unknownHandler (h.handlerId?_iff.1 hid) (h.handler_eq_none_iff.1 hhandler)
    | some handler =>
      exact .handler (h.handlerId?_iff.1 hid) ((h.handlers.get?_eq_some_iff id handler).1 hhandler)

lemma Records.resolve_eq_iff (name : String) (answer : Except SetupError H) :
    registry.resolve name = answer ↔ Resolution mappings handlers name answer := by
  refine ⟨fun heq => heq ▸ h.resolution name, fun hresolution => ?_⟩
  unfold Registry.resolve
  cases hresolution with
  | handler hid hhandler =>
    rw [h.handlerId?_iff.2 hid]
    simp only [(h.handlers.get?_eq_some_iff _ _).2 hhandler]
  | unknownRule hnone => rw [h.handlerId?_eq_none_iff.2 hnone]
  | unknownHandler hid hnone =>
    rw [h.handlerId?_iff.2 hid]
    simp only [h.handler_eq_none_iff.2 hnone]

lemma Records.mem_ruleNames_iff {name : String} :
    name ∈ registry.ruleNames ↔ ∃ mapping ∈ mappings, name = Text.lower mapping.1 := by
  rw [Registry.ruleNames, List.mem_mergeSort, h.names.mem_keys_iff]
  simp only [eq_comm]

/-- The names are listed in order, none of them twice. -/
lemma Records.ruleNames_pairwise :
    registry.ruleNames.Pairwise fun name later => utf8Bytes name < utf8Bytes later := by
  have hnodup : registry.ruleNames.Nodup :=
    (List.mergeSort_perm _ _).nodup_iff.2 h.names.nodup_keys
  have hle : registry.ruleNames.Pairwise fun name later => decide (name ≤ later) = true :=
    List.pairwise_mergeSort (by simpa using fun a b c => le_trans) (by simpa using le_total) _
  refine (hle.and hnodup).imp fun hlt => utf8Bytes_lt_iff.2 (lt_of_le_of_ne ?_ hlt.2)
  exact of_decide_eq_true hlt.1

lemma Records.hasRule_of_mem {name : String} (hname : name ∈ registry.ruleNames) :
    registry.hasRule name = true := by
  obtain ⟨mapping, hmapping, rfl⟩ := h.mem_ruleNames_iff.1 hname
  rw [Registry.hasRule, Option.isSome_iff_ne_none, Ne, h.handlerId?_eq_none_iff]
  exact fun hnone => hnone mapping hmapping (lower_lower mapping.1).symm

end Lookups

/-- There is one way only to list rules in the order of their names. -/
lemma eq_rules_of_perm {settings : Settings} (hsettings : SettingsMade settings)
    {rules : List (String × String)} (hperm : rules.Perm settings.rules)
    (hrules : InByteOrder rules) : rules = settings.rules :=
  hperm.eq_of_pairwise (fun _ _ _ _ h h' => absurd h' (List.lt_asymm h)) hrules
    (rules_inByteOrder hsettings)

/-- Lookups go by the last registration, whatever the letter case: a name has the identifier of its
last mapping and resolves to the last handler under it, be it older or newer than the mapping; the
names are listed once each, in lower case and in order. An engine resolves names as if the rules of
its settings were mapped in the order of their names. -/
theorem lookups_follow_last_registration {start : Registry H} (hstart : Orderly start)
    (calls : List (Registration H)) :
    let registry := registered start calls
    let mappings := start.names ++ calls.flatMap Registration.mappings
    let handlers := start.handlers ++ calls.flatMap Registration.handlers
    Orderly registry ∧
      (∀ name id, registry.handlerId? name = some id ↔
        LastUnder (Text.lower · = Text.lower name) mappings id) ∧
      (∀ name answer, registry.resolve name = answer ↔
        Resolution mappings handlers name answer) ∧
      (registry.ruleNames.Pairwise fun name later => utf8Bytes name < utf8Bytes later) ∧
      (∀ name, name ∈ registry.ruleNames ↔ ∃ mapping ∈ mappings, name = Text.lower mapping.1) ∧
      (∀ name ∈ registry.ruleNames, registry.hasRule name = true) ∧
      ∀ settings engine, SettingsMade settings → Engine.make? settings registry = .ok engine →
        ∀ rules, rules.Perm settings.rules → InByteOrder rules →
          ∀ name, engine.registry.resolve name = (registry.addRules rules).resolve name := by
  intro registry mappings handlers
  have hrecords : Records mappings handlers registry := hstart.records.registered calls
  refine ⟨hrecords.orderly, fun name id => hrecords.handlerId?_iff, hrecords.resolve_eq_iff,
    hrecords.ruleNames_pairwise, fun name => hrecords.mem_ruleNames_iff,
    fun name hname => hrecords.hasRule_of_mem hname, ?_⟩
  intro settings engine hsettings hmake rules hperm hrules name
  obtain ⟨-, rfl⟩ := make?_eq_ok_iff.1 hmake
  rw [eq_rules_of_perm hsettings hperm hrules, withSettings_eq_addRules]

/-- The second mapping of a name is spelled in another case, one identifier has its handler renewed
and one has none. -/
def adultCalls : List (Registration Nat) := [
  .rule "isAdult" "age::adult", .named "age::adult" ["grownUp"] 1,
  .rules [("ISADULT", "age::legal"), ("dangling", "age::none")],
  .handler "age::legal" 2, .handler "age::adult" 3]

/-- Two names that are one in lower case. -/
def adultSettings : Settings :=
  (({} : Settings).withRule "grownup" "age::legal").withRule "GROWNUP" "age::none"

theorem adult_names_resolve_to_last_handlers :
    Orderly (.empty : Registry Nat) ∧ SettingsMade adultSettings ∧
      (registered .empty adultCalls).resolve "IsAdult" = .ok 2 ∧
      (registered .empty adultCalls).resolve "grownup" = .ok 3 ∧
      (registered .empty adultCalls).resolve "DANGLING" =
        .error (.unknownHandler "dangling" "age::none") ∧
      (registered .empty adultCalls).resolve "Child" = .error (.unknownRule "child") ∧
      ∃ engine, Engine.make? adultSettings (registered .empty adultCalls) = .ok engine ∧
        engine.registry.resolve "grownup" = .ok 2 := by
  have hmade : SettingsMade adultSettings := (SettingsMade.default.withRule _ _).withRule _ _
  obtain ⟨-, -, hresolve, -, -, -, hengine⟩ :=
    lookups_follow_last_registration (orderly_empty : Orderly (.empty : Registry Nat)) adultCalls
  refine ⟨orderly_empty, hmade, (hresolve _ _).2 ?_, (hresolve _ _).2 ?_, (hresolve _ _).2 ?_,
    (hresolve _ _).2 ?_, _, make?_eq_ok_iff.2 ⟨rfl, rfl⟩, ?_⟩
  · exact .handler
      ⟨[("isAdult", "age::adult"), ("grownUp", "age::adult")], "ISADULT",
        [("dangling", "age::none")], rfl, by decide, by decide⟩
      ⟨[("age::adult", 1)], "age::legal", [("age::adult", 3)], rfl, rfl, by decide⟩
  · exact .handler
      ⟨[("isAdult", "age::adult")], "grownUp",
        [("ISADULT", "age::legal"), ("dangling", "age::none")], rfl, by decide, by decide⟩
      ⟨[("age::adult", 1), ("age::legal", 2)], "age::adult", [], rfl, rfl, by decide⟩
  · exact .unknownHandler
      ⟨[("isAdult", "age::adult"), ("grownUp", "age::adult"), ("ISADULT", "age::legal")],
        "dangling", [], rfl, by decide, by decide⟩ (by decide)
  · exact .unknownRule (by decide)
  · rw [hengine adultSettings _ hmade (make?_eq_ok_iff.2 ⟨rfl, rfl⟩)
      [("GROWNUP", "age::none"), ("grownup", "age::legal")] (by decide) (rules_inByteOrder hmade)]
    rfl

end Registrations

end RuleChain.Proofs
