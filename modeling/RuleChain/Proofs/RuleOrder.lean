import Mathlib.Data.String.Basic
import Mathlib.Data.List.Lex
import Mathlib.Tactic.Lemma
import Mathlib.Tactic.SplitIfs
import RuleChain.Settings.Reader

/-!
# Order of configured rules

Settings keep the rules they map in the order of their names, which is that of the bytes of the
names: of two characters the greater one has the greater bytes, at a place that both encodings have.
Whatever way settings come about, their rules stand in this order.
-/

namespace RuleChain.Proofs

def utf8Bytes (s : String) : List UInt8 :=
  s.toUTF8.data.toList

lemma utf8Bytes_eq_flatMap (s : String) :
    utf8Bytes s = s.toList.flatMap String.utf8EncodeChar := by
  rw [utf8Bytes, String.toUTF8_eq_toByteArray, ← String.utf8Encode_toList, List.utf8Encode,
    List.data_toByteArray]

/-- Of two characters the greater one has the greater bytes, whatever stands behind them. -/
lemma utf8EncodeChar_append_lt {c d : Char} (h : c < d) (s t : List UInt8) :
    String.utf8EncodeChar c ++ s < String.utf8EncodeChar d ++ t := by
  have hlt : c.val.toNat < d.val.toNat := h
  have hmax : d.val.toNat < 0x110000 := by
    have hvalid := d.valid
    simp only [UInt32.isValidChar, Nat.isValidChar] at hvalid
    omega
  -- the bits that a byte takes fit beside its mark
  have hbits (n m mark : Nat) (hm : 0 < m) (hmark : m + mark ≤ 2 ^ 8) :
      (n % m + mark) % 2 ^ 8 = n % m + mark :=
    Nat.mod_eq_of_lt (by have := Nat.mod_lt n hm; omega)
  have hthird (n : Nat) : n / 4096 = n / 64 / 64 := by omega
  have hfourth (n : Nat) : n / 262144 = n / 64 / 64 / 64 := by omega
  unfold String.utf8EncodeChar
  simp only
  split_ifs <;>
    simp (disch := decide) only [List.cons_append, List.cons_lt_cons_iff, UInt8.lt_iff_toNat_lt,
      ← UInt8.toNat_inj, UInt8.toNat_ofNat', hbits, hthird, hfourth]
  all_goals omega

lemma flatMap_utf8EncodeChar_lt {s t : List Char} (h : s < t) :
    s.flatMap String.utf8EncodeChar < t.flatMap String.utf8EncodeChar := by
  induction s generalizing t with
  | nil =>
    cases t with
    | nil => exact absurd h (List.not_lt_nil _)
    | cons d t =>
      rw [List.flatMap_nil, List.flatMap_cons]
      cases hd : String.utf8EncodeChar d with
      | nil => exact absurd hd String.utf8EncodeChar_ne_nil
      | cons byte bytes => exact List.nil_lt_cons _ _
  | cons c s ih =>
    cases t with
    | nil => exact absurd h (List.not_lt_nil _)
    | cons d t =>
      rw [List.flatMap_cons, List.flatMap_cons]
      obtain hcd | ⟨rfl, hst⟩ := List.cons_lt_cons_iff.1 h
      · exact utf8EncodeChar_append_lt hcd _ _
      · exact List.append_left_lt (ih hst)

/-- The order of texts is that of their bytes. -/
theorem utf8Bytes_lt_iff {s t : String} : utf8Bytes s < utf8Bytes t ↔ s < t := by
  simp only [utf8Bytes_eq_flatMap, String.lt_iff_toList_lt]
  refine ⟨fun h => ?_, flatMap_utf8EncodeChar_lt⟩
  rcases lt_trichotomy s.toList t.toList with hst | hst | hst
  · exact hst
  · exact absurd (hst ▸ h) (List.lt_irrefl _)
  · exact absurd h (List.lt_asymm (flatMap_utf8EncodeChar_lt hst))

section SortedTables

variable {α : Type}

/-- Names stand in the order of their bytes, none of them twice. -/
def InByteOrder (entries : List (String × α)) : Prop :=
  entries.Pairwise fun entry later => utf8Bytes entry.1 < utf8Bytes later.1

lemma inByteOrder_nil : InByteOrder ([] : List (String × α)) :=
  List.Pairwise.nil

lemma eq_or_mem_of_mem_insertSorted {table : Table α} {key : String} {value : α}
    {entry : String × α} (h : entry ∈ Table.insertSorted table key value) :
    entry.1 = key ∨ entry ∈ table := by
  induction table with
  | nil => simp_all [Table.insertSorted]
  | cons first rest ih =>
    rw [Table.insertSorted] at h
    split_ifs at h <;> grind

/-- A rule that is put in takes its place in the order. -/
lemma InByteOrder.insertSorted {table : Table α} (h : InByteOrder table) (key : String)
    (value : α) : InByteOrder (Table.insertSorted table key value) := by
  induction table with
  | nil => exact List.pairwise_singleton _ _
  | cons entry rest ih =>
    obtain ⟨k, v⟩ := entry
    obtain ⟨hfirst, hrest⟩ := List.pairwise_cons.1 h
    rw [Table.insertSorted]
    split_ifs with heq hlt
    · exact List.pairwise_cons.2 ⟨hfirst, hrest⟩
    · have hbytes : utf8Bytes key < utf8Bytes k := utf8Bytes_lt_iff.2 hlt
      refine List.pairwise_cons.2 ⟨fun later hlater => ?_, h⟩
      obtain rfl | hlater := List.mem_cons.1 hlater
      · exact hbytes
      · exact List.lt_trans hbytes (hfirst later hlater)
    · have hbytes : utf8Bytes k < utf8Bytes key :=
        utf8Bytes_lt_iff.2 (lt_of_le_of_ne (not_lt.1 hlt) heq)
      refine List.pairwise_cons.2 ⟨fun later hlater => ?_, ih hrest⟩
      obtain hkey | hlater := eq_or_mem_of_mem_insertSorted hlater
      · rwa [hkey]
      · exact hfirst later hlater

lemma inByteOrder_sortedOfEntries (entries : List (String × α)) :
    InByteOrder (Table.sortedOfEntries entries) :=
  Table.sortedOfEntries_induction InByteOrder inByteOrder_nil fun _ h entry _ =>
    h.insertSorted entry.1 entry.2

end SortedTables

section Records
open Json

variable {α β : Type} {holds : β → Prop}

/-- A field keeps a property of the record whenever it is set. -/
def Keeps (holds : β → Prop) (field : RecordField α β) : Prop :=
  ∀ record value record', holds record → field.set record value = some record' → holds record'

lemma setMembers_keeps {fields : List (RecordField α β)}
    (hfields : ∀ field ∈ fields, Keeps holds field) {unknownAllowed : Bool} {seen : List Nat}
    {record record' : β} {members : List (String × α)} (hrecord : holds record)
    (h : setMembers fields unknownAllowed seen record members = some record') : holds record' := by
  induction members generalizing seen record with
  | nil => simp_all [setMembers]
  | cons member members ih =>
    obtain ⟨key, value⟩ := member
    rw [setMembers] at h
    split at h
    · split at h
      · exact ih hrecord h
      · cases h
    · next i _ =>
      split at h
      · cases h
      · split at h
        · cases h
        · next record' hset =>
          obtain ⟨field, hfield, hset⟩ := Option.bind_eq_some_iff.1 hset
          exact ih (hfields field (List.mem_of_getElem? hfield) _ _ _ hrecord hset) h

lemma setItems_keeps {fields : List (RecordField α β)}
    (hfields : ∀ field ∈ fields, Keeps holds field) {record record' : β} {items : List α}
    (hrecord : holds record)
    (h : setItems fields record items = some record') : holds record' := by
  induction items generalizing fields record with
  | nil => cases fields <;> simp_all [setItems]
  | cons item items ih =>
    cases fields with
    | nil => cases h
    | cons field fields =>
      rw [setItems] at h
      split at h
      · cases h
      · next record' hset =>
        exact ih (fun f hf => hfields f (.tail _ hf)) (hfields field (.head _) _ _ _ hrecord hset) h

variable [Readable α]

/-- What the defaults have and every field keeps, a record that is read has. -/
lemma readRecord?_keeps {fields : List (RecordField α β)}
    (hfields : ∀ field ∈ fields, Keeps holds field) {unknownAllowed : Bool}
    {defaults record : β} {value : α} (hdefaults : holds defaults)
    (h : readRecord? fields unknownAllowed defaults value = some record) : holds record := by
  rw [readRecord?] at h
  split at h
  · exact setMembers_keeps hfields hdefaults h
  · obtain ⟨items, -, h⟩ := Option.bind_eq_some_iff.1 h
    exact setItems_keeps hfields hdefaults h

end Records

/-- The ways in which settings come about. -/
inductive SettingsMade : Settings → Prop where
  | default : SettingsMade {}
  | read {α : Type} [Json.Readable α] {value : α} {settings}
      (h : Settings.read value = .ok settings) : SettingsMade settings
  | withRule {settings} (h : SettingsMade settings) (name id : String) :
      SettingsMade (settings.withRule name id)
  | withRules {settings} (h : SettingsMade settings) (rules : List (String × String)) :
      SettingsMade { settings with rules := Table.sortedOfEntries rules }
  /-- Fields other than the rules may be set to anything. -/
  | update {settings other} (h : SettingsMade settings) (hrules : other.rules = settings.rules) :
      SettingsMade other

section Fields

variable {α : Type}

/-- A field that sets something else leaves the rules as they are. -/
lemma keeps_order_of_rules_eq {field : Json.RecordField α Settings}
    (hfield : ∀ settings value settings',
      field.set settings value = some settings' → settings'.rules = settings.rules) :
    Keeps (fun settings => InByteOrder settings.rules) field := by
  intro settings value settings' hsettings hset
  rwa [hfield settings value settings' hset]

variable [Json.Readable α]

lemma textField_keeps_order {names : List String} {set : Settings → String → Settings}
    (hset : ∀ settings text, (set settings text).rules = settings.rules) :
    Keeps (fun settings => InByteOrder settings.rules)
      (Settings.textField names set : Json.RecordField α Settings) := by
  refine keeps_order_of_rules_eq fun settings value settings' h => ?_
  obtain ⟨text, -, rfl⟩ := Option.map_eq_some_iff.1 h
  exact hset settings text

lemma readRules?_inByteOrder {value : α} {rules : Table String}
    (h : Settings.readRules? value = some rules) : InByteOrder rules := by
  simp only [Settings.readRules?, Option.bind_eq_bind, Option.bind_eq_some_iff,
    Option.pure_def, Option.some_inj] at h
  obtain ⟨members, -, entries, -, rfl⟩ := h
  exact inByteOrder_sortedOfEntries entries

lemma recordFields_keep_order :
    ∀ field ∈ (Settings.recordFields : List (Json.RecordField α Settings)),
      Keeps (fun settings => InByteOrder settings.rules) field := by
  simp only [Settings.recordFields, List.forall_mem_cons]
  refine ⟨textField_keeps_order fun _ _ => rfl, textField_keeps_order fun _ _ => rfl,
    keeps_order_of_rules_eq fun settings value settings' h => ?raise,
    keeps_order_of_rules_eq fun settings value settings' h => ?code,
    textField_keeps_order fun _ _ => rfl, textField_keeps_order fun _ _ => rfl,
    textField_keeps_order fun _ _ => rfl, textField_keeps_order fun _ _ => rfl,
    fun settings value settings' _ h => ?rules, by simp⟩
  case raise =>
    obtain ⟨raise, -, rfl⟩ := Option.map_eq_some_iff.1 h
    rfl
  case code =>
    obtain ⟨code, -, rfl⟩ := Option.map_eq_some_iff.1 h
    rfl
  case rules =>
    obtain ⟨rules, hrules, rfl⟩ := Option.map_eq_some_iff.1 h
    exact readRules?_inByteOrder hrules

end Fields

theorem rules_inByteOrder {settings : Settings} (h : SettingsMade settings) :
    InByteOrder settings.rules := by
  induction h with
  | default => exact inByteOrder_nil
  | @read α _ value settings h =>
    unfold Settings.read at h
    split at h
    · cases h
    · next read hread =>
      split at h
      · cases h
      · obtain rfl := Except.ok.inj h
        exact readRecord?_keeps recordFields_keep_order inByteOrder_nil hread
  | withRule _ name id ih => exact ih.insertSorted name id
  | withRules _ rules _ => exact inByteOrder_sortedOfEntries rules
  | update _ hrules ih => rwa [hrules]

end RuleChain.Proofs
