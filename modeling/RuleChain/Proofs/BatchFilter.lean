import RuleChain.Proofs.LastEntry
import RuleChain.Proofs.RaisedRun

/-!
# Batches of a filter

A filter that runs chains on the values under several keys runs them one after another in one
engine. What a chain gives does not depend on the chains before it, so a batch gives what its pairs
of key and chain give one by one, and fails where the first of them fails.
-/

namespace RuleChain.Proofs

/-- There is a value other than null under a key: the member with just this key, or the item at the
index that it spells. -/
inductive Present : Tree → String → Tree → Prop where
  | member {members key value} (h : Table.get? members key = some value)
      (hnull : value.isNull = false) : Present (.object members) key value
  | item {items : List Tree} {key i value} (hindex : Text.readCount? key.toList = some i)
      (h : items[i]? = some value) (hnull : value.isNull = false) : Present (.list items) key value

lemma present?_eq_some_iff {data : Tree} {key : String} {value : Tree} :
    Filter.present? data key = some value ↔ Present data key value := by
  have hchild : Filter.present? data key = (data.child? key).filter fun value => !value.isNull := by
    simp [Filter.present?, Path.lookup?, Path.segments, Tree.get?]
  rw [hchild, Option.filter_eq_some_iff]
  constructor
  · rintro ⟨h, hnull⟩
    cases data with
    | object members => exact .member h (by simpa using hnull)
    | list items =>
      obtain ⟨i, hindex, h⟩ := Option.bind_eq_some_iff.1 h
      exact .item hindex h (by simpa using hnull)
    | _ => cases h
  · rintro (⟨h, hnull⟩ | ⟨hindex, h, hnull⟩)
    · exact ⟨h, by simpa using hnull⟩
    · exact ⟨by simpa [Tree.child?, hindex] using h, by simpa using hnull⟩

lemma present?_eq_none_iff {data : Tree} {key : String} :
    Filter.present? data key = none ↔ ∀ value, ¬ Present data key value := by
  simp only [Option.eq_none_iff_forall_ne_some, ne_eq, present?_eq_some_iff]

lemma Present.unique {data : Tree} {key : String} {value other : Tree} (h : Present data key value)
    (h' : Present data key other) : value = other :=
  Option.some.inj ((present?_eq_some_iff.2 h).symm.trans (present?_eq_some_iff.2 h'))

section Batches

variable {H : Type}

/-- Filters with the same data sets, whose engines are set up alike when they raise. -/
structure Alike (filter other : Filter H) : Prop where
  sets : filter.sets = other.sets
  engine : SameSetup (filter.engine.raising true) (other.engine.raising true)

lemma Alike.refl (filter : Filter H) : Alike filter filter :=
  ⟨rfl, .refl _⟩

variable [Judging H]

/-- What a filter has run before has no part in what it runs next. -/
lemma Alike.value_eq {filter other : Filter H} (h : Alike filter other) (input : Tree)
    (rules : Chain) : filter.value input rules = other.value input rules := by
  have hrun := run_eq_of_sameSetup (.single input rules none) h.engine
  simp only [Run.on] at hrun
  simp only [Filter.value, hrun, h.sets]

lemma Alike.after_value {filter other : Filter H} (h : Alike filter other) (input : Tree)
    (rules : Chain) : Alike (filter.value input rules).2 other where
  sets := h.sets
  engine := ((value_sameSetup (filter.engine.raising true) input rules none).raising true).trans
    h.engine

variable (filter : Filter H) (data : Tree)

/-- What a pair of key and chain gives on its own: the result of its chain, or null where there is
no value to run it on. -/
inductive GivesAlone : String × Chain → Tree → Prop where
  | result {key rules input result} (h : Present data key input)
      (hrun : (filter.value input rules).1 = .ok result) : GivesAlone (key, rules) result
  | null {key rules} (h : ∀ input, ¬ Present data key input) : GivesAlone (key, rules) .null

/-- A pair fails on its own, with a fault and what the run makes of the filter. -/
inductive FailsAlone : String × Chain → Fault → Filter H → Prop where
  | run {key rules input fault after} (h : Present data key input)
      (hrun : filter.value input rules = (.error fault, after)) :
      FailsAlone (key, rules) fault after

lemma gives_or_fails (pair : String × Chain) :
    (∃ result, GivesAlone filter data pair result) ∨
      ∃ fault after, FailsAlone filter data pair fault after := by
  obtain ⟨key, rules⟩ := pair
  cases hinput : Filter.present? data key with
  | none => exact .inl ⟨.null, .null (present?_eq_none_iff.1 hinput)⟩
  | some input =>
    have hpresent := present?_eq_some_iff.1 hinput
    cases hrun : filter.value input rules with
    | mk answer after =>
      cases answer with
      | error fault => exact .inr ⟨fault, after, .run hpresent hrun⟩
      | ok result => exact .inl ⟨result, .result hpresent (by rw [hrun])⟩

variable {filter data} in
lemma not_failsAlone_of_gives {pair : String × Chain} {result : Tree}
    (h : GivesAlone filter data pair result) {fault : Fault} {after : Filter H} :
    ¬ FailsAlone filter data pair fault after := by
  rintro ⟨hinput, hfault⟩
  cases h with
  | result hinput' hrun =>
    obtain rfl := hinput.unique hinput'
    rw [hfault] at hrun
    cases hrun
  | null hnone => exact hnone _ hinput

variable {filter data} in
lemma givesAlone_unique {pair : String × Chain} {result other : Tree}
    (h : GivesAlone filter data pair result) (h' : GivesAlone filter data pair other) :
    result = other := by
  cases h with
  | result hinput hrun =>
    cases h' with
    | result hinput' hrun' =>
      obtain rfl := hinput.unique hinput'
      exact Except.ok.inj (hrun.symm.trans hrun')
    | null hnone => exact absurd hinput (hnone _)
  | null hnone =>
    cases h' with
    | result hinput _ => exact absurd hinput (hnone _)
    | null _ => rfl

/-- All pairs give something on their own, or there is a first one that fails. -/
lemma all_give_or_first_fails (pairs : List (String × Chain)) :
    (∀ pair ∈ pairs, ∃ result, GivesAlone filter data pair result) ∨
      ∃ done pair rest fault after, pairs = done ++ pair :: rest ∧
        (∀ earlier ∈ done, ∃ result, GivesAlone filter data earlier result) ∧
        FailsAlone filter data pair fault after := by
  induction pairs with
  | nil => exact .inl (by simp)
  | cons first pairs ih =>
    obtain hgives | ⟨fault, after, hfails⟩ := gives_or_fails filter data first
    · obtain hall | ⟨done, pair, rest, fault, after, rfl, hdone, hfails⟩ := ih
      · exact .inl (List.forall_mem_cons.2 ⟨hgives, hall⟩)
      · exact .inr ⟨first :: done, pair, rest, fault, after, rfl,
          List.forall_mem_cons.2 ⟨hgives, hdone⟩, hfails⟩
    · exact .inr ⟨[], first, pairs, fault, after, rfl, by simp, hfails⟩

variable {filter data}

/-- A pair that gives something on its own gives it in a batch, and leaves the filter as good as it
was. -/
lemma collect_cons_of_gives {pair : String × Chain} {result : Tree}
    (h : GivesAlone filter data pair result) {current : Filter H}
    (hcurrent : Alike current filter) : ∃ after, Alike after filter ∧ ∀ results rest,
      current.collect data results (pair :: rest) =
        after.collect data (Table.insert results pair.1 result) rest := by
  cases h with
  | @result key rules input result hinput hrun =>
    refine ⟨(current.value input rules).2, hcurrent.after_value input rules,
      fun results rest => ?_⟩
    have hvalue : current.value input rules = (.ok result, (current.value input rules).2) := by
      rw [← hrun, ← hcurrent.value_eq]
    rw [Filter.collect, present?_eq_some_iff.2 hinput]
    simp only
    rw [hvalue]
  | @null key rules hinput =>
    refine ⟨current, hcurrent, fun results rest => ?_⟩
    rw [Filter.collect, present?_eq_none_iff.2 hinput]

/-- So do pairs one after another, and their results are collected. -/
lemma collect_append_of_gives {result : String × Chain → Tree} {pairs : List (String × Chain)}
    (h : ∀ pair ∈ pairs, GivesAlone filter data pair (result pair))
    {current : Filter H} (hcurrent : Alike current filter)
    {entries : List (String × Tree)} {results : Table Tree} (hresults : Holds id entries results) :
    ∃ after collected, Alike after filter ∧
      Holds id (entries ++ pairs.map fun pair => (pair.1, result pair)) collected ∧
      ∀ rest, current.collect data results (pairs ++ rest) =
        after.collect data collected rest := by
  -- the batch goes on in a filter that is only alike, so the induction is over all such filters
  induction pairs generalizing current entries results with
  | nil => exact ⟨current, results, hcurrent, by simpa using hresults, fun rest => rfl⟩
  | cons pair pairs ih =>
    obtain ⟨hpair, hpairs⟩ := List.forall_mem_cons.1 h
    obtain ⟨next, hnext, hstep⟩ := collect_cons_of_gives hpair hcurrent
    obtain ⟨after, collected, hafter, hcollected, hrest⟩ :=
      ih hpairs hnext (hresults.insert pair.1 (result pair))
    refine ⟨after, collected, hafter, by simpa using hcollected, fun rest => ?_⟩
    rw [List.cons_append, hstep, ← hrest]
    rfl

lemma values_of_gives {result : String × Chain → Tree} {pairs : List (String × Chain)}
    (h : ∀ pair ∈ pairs, GivesAlone filter data pair (result pair)) :
    ∃ results, (filter.values data pairs).1 = .ok results ∧
      Holds id (pairs.map fun pair => (pair.1, result pair)) results := by
  obtain ⟨after, results, -, hresults, hrest⟩ := collect_append_of_gives h (.refl filter) holds_nil
  refine ⟨results, ?_, hresults⟩
  have hall := hrest []
  rw [List.append_nil] at hall
  rw [Filter.values, hall, Filter.collect]

/-- The first pair that fails ends a batch with its fault and what its run makes of the filter. -/
lemma values_of_fails {done rest : List (String × Chain)} {pair : String × Chain} {fault : Fault}
    {after : Filter H} (hdone : ∀ earlier ∈ done, ∃ result, GivesAlone filter data earlier result)
    (hfails : FailsAlone filter data pair fault after) :
    filter.values data (done ++ pair :: rest) = (.error fault, after) := by
  choose! result hresult using hdone
  obtain ⟨before, results, hbefore, -, hrest⟩ :=
    collect_append_of_gives hresult (.refl filter) holds_nil
  cases hfails with
  | @run key rules input fault after hinput hrun =>
    rw [Filter.values, hrest, Filter.collect, present?_eq_some_iff.2 hinput]
    simp only
    rw [hbefore.value_eq, hrun]

/-- A batch is its pairs one by one. It fails as the first pair that fails on its own, and nothing is
run after that; if none fails, the keys stand in the order in which they first come, each with what
its last pair gives on its own. A key of a data set is filtered as the value under it is, and where
there is no value the default comes back and the filter is left as it was. -/
theorem batch_gives_what_pairs_give (filter : Filter H) (data : Tree)
    (pairs : List (String × Chain)) :
    (∀ fault after, filter.values data pairs = (.error fault, after) ↔
      ∃ done pair rest, pairs = done ++ pair :: rest ∧
        (∀ earlier ∈ done, ∃ result, GivesAlone filter data earlier result) ∧
        FailsAlone filter data pair fault after) ∧
    ((∀ pair ∈ pairs, ∀ fault after, ¬ FailsAlone filter data pair fault after) →
      ∃ results, (filter.values data pairs).1 = .ok results ∧
        Table.keys results = (pairs.map (·.1)).eraseDups ∧
        ∀ key rules, LastUnder (· = key) pairs rules →
          ∃ result, GivesAlone filter data (key, rules) result ∧
            Table.get? results key = some result) ∧
    ∀ set key rules default,
      (∀ bound input, filter.dataSet? set = some bound → Present bound key input →
        filter.fromSet set key rules default = filter.value input rules) ∧
      ((∀ bound input, filter.dataSet? set = some bound → ¬ Present bound key input) →
        filter.fromSet set key rules default = (.ok default, filter)) := by
  refine ⟨fun fault after => ⟨fun h => ?_, ?_⟩, fun hnone => ?_,
    fun set key rules default => ⟨?_, ?_⟩⟩
  · obtain hall | ⟨done, pair, rest, fault', after', rfl, hdone, hfails⟩ :=
      all_give_or_first_fails filter data pairs
    · choose! result hresult using hall
      obtain ⟨results, hok, -⟩ := values_of_gives hresult
      rw [h] at hok
      cases hok
    · rw [values_of_fails hdone hfails] at h
      cases h
      exact ⟨done, pair, rest, rfl, hdone, hfails⟩
  · rintro ⟨done, pair, rest, rfl, hdone, hfails⟩
    exact values_of_fails hdone hfails
  · have hall : ∀ pair ∈ pairs, ∃ result, GivesAlone filter data pair result := by
      intro pair hpair
      obtain hgives | ⟨fault, after, hfails⟩ := gives_or_fails filter data pair
      · exact hgives
      · exact absurd hfails (hnone pair hpair fault after)
    choose! result hresult using hall
    obtain ⟨results, hok, hresults⟩ := values_of_gives hresult
    refine ⟨results, hok, ?_, fun key rules hlast => ?_⟩
    · rw [hresults.keys_eq, List.map_map]
      rfl
    · exact ⟨result (key, rules), hresult _ (mem_of_lastUnder hlast),
        (hresults.get?_eq_some_iff key _).2 (lastUnder_map result hlast)⟩
  · intro bound input hbound hinput
    rw [Filter.fromSet, hbound, Option.bind_some, present?_eq_some_iff.2 hinput]
  · intro hnone
    rw [Filter.fromSet]
    cases hbound : filter.dataSet? set with
    | none => rfl
    | some bound =>
      rw [Option.bind_some, present?_eq_none_iff.2 fun input => hnone bound input hbound]

end Batches

section Sample

def textFilter : Filter Handler :=
  .ofEngine textEngine

/-- A key with a dot in it is no path, and one value is null. -/
def visitor : Tree :=
  .object [("name", .text " Ada "), ("age", .bool true), ("note", .null), ("name.last", .text "L ")]

/-- The visitor is bound as a set. -/
def visitFilter : Filter Handler :=
  textFilter.bindSet Filter.querySet visitor

lemma visitFilter_dataSet? : visitFilter.dataSet? "query" = some visitor := by
  rw [visitFilter, Filter.dataSet?_bindSet, if_pos (by rfl)]

-- the judgement of a handler is defined by recursion on the options, which `rfl` does not open
lemma name_trimmed : GivesAlone textFilter visitor ("name", .text "trim") (.text "Ada") :=
  .result (.member rfl rfl) (by with_unfolding_all rfl)

lemma name_kept : GivesAlone textFilter visitor ("name", .text "text") (.text " Ada ") :=
  .result (.member rfl rfl) (by with_unfolding_all rfl)

lemma last_name_trimmed : GivesAlone textFilter visitor ("name.last", .text "trim") (.text "L") :=
  .result (.member rfl rfl) (by with_unfolding_all rfl)

lemma note_passed : GivesAlone textFilter visitor ("note", .text "text") .null :=
  .null (present?_eq_none_iff.1 (by rfl))

lemma city_passed : GivesAlone textFilter visitor ("city", .text "text") .null :=
  .null (present?_eq_none_iff.1 (by rfl))

def ageFault : Fault :=
  .failed ⟨406, [.make "" "%s must be text." Message.defaultLabel "" "text" "true"]⟩

lemma age_fails :
    FailsAlone textFilter visitor ("age", .text "text") ageFault
      (textFilter.value (.bool true) (.text "text")).2 :=
  .run (.member rfl rfl) (Prod.ext (by with_unfolding_all rfl) rfl)

theorem visitor_batches :
    (textFilter.values visitor [("name", .text "trim"), ("age", .text "text"),
      ("name", .text "unknown")]).1 = .error ageFault ∧
    (∃ results, (textFilter.values visitor [("name", .text "text"), ("note", .text "text"),
        ("name.last", .text "trim"), ("name", .text "trim"), ("city", .text "text")]).1 =
          .ok results ∧
      Table.keys results = ["name", "note", "name.last", "city"] ∧
      Table.get? results "name" = some (.text "Ada")) ∧
    textFilter.fromSet "request" "name" (.text "trim") (.bool false) =
      (.ok (.bool false), textFilter) ∧
    (visitFilter.fromSet "query" "name" (.text "trim") (.bool false)).1 = .ok (.text "Ada") ∧
    visitFilter.fromSet "query" "note" (.text "text") (.bool false) =
      (.ok (.bool false), visitFilter) := by
  obtain ⟨hfault, -, -⟩ := batch_gives_what_pairs_give textFilter visitor [("name", .text "trim"),
    ("age", .text "text"), ("name", .text "unknown")]
  obtain ⟨-, hresults, hsets⟩ := batch_gives_what_pairs_give textFilter visitor
    [("name", .text "text"), ("note", .text "text"), ("name.last", .text "trim"),
      ("name", .text "trim"), ("city", .text "text")]
  obtain ⟨-, -, hvisit⟩ := batch_gives_what_pairs_give visitFilter visitor []
  refine ⟨?_, ?_, ?_, ?_, ?_⟩
  · rw [(hfault ageFault _).2 ⟨[("name", .text "trim")], ("age", .text "text"),
      [("name", .text "unknown")], rfl, by simpa using ⟨_, name_trimmed⟩, age_fails⟩]
  · obtain ⟨results, hok, hkeys, hlast⟩ := hresults (by
      simpa using ⟨fun _ _ => not_failsAlone_of_gives name_kept,
        fun _ _ => not_failsAlone_of_gives note_passed,
        fun _ _ => not_failsAlone_of_gives last_name_trimmed,
        fun _ _ => not_failsAlone_of_gives name_trimmed,
        fun _ _ => not_failsAlone_of_gives city_passed⟩)
    obtain ⟨result, hgives, hget⟩ := hlast "name" (.text "trim")
      ⟨[("name", .text "text"), ("note", .text "text"), ("name.last", .text "trim")], "name",
        [("city", .text "text")], rfl, rfl, by simp⟩
    rw [givesAlone_unique hgives name_trimmed] at hget
    exact ⟨results, hok, hkeys, hget⟩
  · exact (hsets "request" "name" (.text "trim") (.bool false)).2 fun bound input hbound => by
      cases hbound
  · obtain ⟨hfound, -⟩ := hvisit "query" "name" (.text "trim") (.bool false)
    rw [hfound visitor (.text " Ada ") visitFilter_dataSet? (.member rfl rfl)]
    with_unfolding_all rfl
  · refine (hvisit "query" "note" (.text "text") (.bool false)).2 fun bound input hbound => ?_
    rw [visitFilter_dataSet?] at hbound
    obtain rfl := Option.some.inj hbound
    exact present?_eq_none_iff.1 (by rfl) input

end Sample

end RuleChain.Proofs
