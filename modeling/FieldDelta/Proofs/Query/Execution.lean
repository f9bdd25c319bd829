import Mathlib
import FieldDelta.Proofs.Query.Run

/-! # Which queries asking executes

The store logs every query that it executes.  This module says for each way of asking how often it
executes each query (`Store.Executes`):

* collecting the listed units executes one query for each unit that is not fresh;
* an outcome or a unit of a node is computed when it is asked for the first time;
* a generation executes no more than that, and its own stages at most once
  (`executes_computeGenerated`).

The second point needs that the log and the tables agree, which `Store.Recorded` says along with
what a valid generation vouches for: everything that it asked for is remembered.
-/

namespace FieldDelta.Query

/-! ## Costs -/

/-- One execution of a query. -/
def once (query : Query) : Query → Nat :=
  fun other => if other = query then 1 else 0

/-- One execution of each of the given queries that the log does not hold. -/
def firstTimes (queries log : List Query) : Query → Nat :=
  fun query => if query ∈ queries ∧ query ∉ log then 1 else 0

theorem firstTimes_eq_zero {queries log : List Query} (h_log : ∀ query ∈ queries, query ∈ log) :
    firstTimes queries log = 0 := by
  funext query
  exact if_neg fun h_new => h_new.2 (h_log query h_new.1)

theorem firstTimes_congr {queries log log' : List Query}
    (h_logs : ∀ query ∈ queries, query ∈ log ↔ query ∈ log') :
    firstTimes queries log = firstTimes queries log' := by
  funext query
  by_cases h_query : query ∈ queries
  · simp [firstTimes, h_query, h_logs query h_query]
  · simp [firstTimes, h_query]

theorem firstTimes_singleton {query : Query} {log : List Query} (h_new : query ∉ log) :
    firstTimes [query] log = once query := by
  funext other
  by_cases h_other : other = query
  · simp [firstTimes, once, h_other, h_new]
  · simp [firstTimes, once, h_other]

namespace Store

/-- On the way from `before` to `after`, each query is executed as often as `cost` says. -/
def Executes (before after : Store) (cost : Query → Nat) : Prop :=
  ∀ query, after.executed.count query = before.executed.count query + cost query

namespace Executes

variable {first second third : Store} {cost other : Query → Nat}

theorem refl (store : Store) : store.Executes store 0 :=
  fun _ => rfl

theorem of_eq (h_eq : second.executed = first.executed) : first.Executes second 0 := by
  intro query
  rw [h_eq]
  rfl

theorem of_cons {query : Query} (h_cons : second.executed = query :: first.executed) :
    first.Executes second (once query) := by
  intro other
  rw [h_cons, List.count_cons, once]
  simp only [beq_iff_eq, eq_comm (a := query)]

theorem trans (h_first : first.Executes second cost) (h_second : second.Executes third other) :
    first.Executes third (cost + other) := by
  intro query
  rw [h_second query, h_first query, Pi.add_apply, Nat.add_assoc]

theorem mem_iff (h_executes : first.Executes second cost) {query : Query} :
    query ∈ second.executed ↔ query ∈ first.executed ∨ cost query ≠ 0 := by
  have h_count := h_executes query
  rw [← List.count_pos_iff, ← List.count_pos_iff (l := first.executed)]
  omega

theorem subset (h_executes : first.Executes second cost) : first.executed ⊆ second.executed :=
  fun _ h_mem => h_executes.mem_iff.mpr (.inl h_mem)

theorem mem_of_firstTimes {queries : List Query}
    (h_executes : first.Executes second (firstTimes queries first.executed)) {query : Query}
    (h_query : query ∈ queries) : query ∈ second.executed := by
  rw [h_executes.mem_iff]
  by_cases h_old : query ∈ first.executed
  · exact .inl h_old
  · exact .inr (by simp [firstTimes, h_query, h_old])

end Executes

theorem snd_askAll_cons {α β : Type} (ask : α → Store → β × Store) (item : α) (rest : List α)
    (store : Store) :
    (askAll ask (item :: rest) store).2 = (askAll ask rest (ask item store).2).2 :=
  rfl

/-- What is executed the first time it is asked for is executed once for all the times. -/
theorem executes_askAll {α β : Type} {ask : α → Store → β × Store} {keys : α → List Query}
    {P : Store → Prop}
    (h_ask : ∀ item store, P store → P (ask item store).2 ∧
      store.Executes (ask item store).2 (firstTimes (keys item) store.executed))
    (items : List α) {store : Store} (h_store : P store) :
    P (askAll ask items store).2 ∧
      store.Executes (askAll ask items store).2 (firstTimes (items.flatMap keys) store.executed) := by
  induction items generalizing store with
  | nil => exact ⟨h_store, by simpa [askAll, firstTimes_eq_zero] using Executes.refl store⟩
  | cons item rest ih =>
    obtain ⟨h_first, h_executes⟩ := h_ask item store h_store
    obtain ⟨h_rest, h_more⟩ := ih h_first
    refine ⟨h_rest, fun query => ?_⟩
    -- The rest finds in the log what the first one has asked for.
    have h_log : query ∈ (ask item store).2.executed ↔
        query ∈ store.executed ∨ query ∈ keys item := by
      rw [h_executes.mem_iff]
      by_cases h_old : query ∈ store.executed <;> simp [firstTimes, h_old]
    rw [snd_askAll_cons, h_more query, h_executes query]
    simp only [firstTimes, h_log, List.flatMap_cons, List.mem_append]
    grind

/-! ## The log and the tables -/

/-- Everything that the generation of the given files asks for is in the log. -/
structure IsLogged (found : List Collected) (options : Options) (log : List Query) : Prop where
  descriptor : ∀ candidate ∈ found.flatMap (·.candidates), .descriptor candidate ∈ log
  emitted : ∀ node ∈ (graphOf found options).nodes, .emitted node options ∈ log

theorem IsLogged.mono {found : List Collected} {options : Options} {log later : List Query}
    (h_logged : IsLogged found options log) (h_later : log ⊆ later) :
    IsLogged found options later where
  descriptor candidate h_candidate := h_later (h_logged.descriptor candidate h_candidate)
  emitted node h_node := h_later (h_logged.emitted node h_node)

/-- The support unit is remembered and up to date. -/
def SupportFresh (store : Store) : Prop :=
  ∃ memo, store.support = some memo ∧ store.optionsAt ≤ memo.ranAt

/-- No stamp lies in the future, the log and the tables agree, and what a valid generation has
    asked for is logged. -/
structure Recorded (store : Store) : Prop where
  listedAt_le : store.listedAt ≤ store.revision
  optionsAt_le : store.optionsAt ≤ store.revision
  changedAt_le : ∀ (unit : Nat) (entry : UnitEntry) (memo : CollectedMemo),
    store.units[unit]? = some entry → entry.memo = some memo → memo.changedAt ≤ store.revision
  descriptor : ∀ candidate, .descriptor candidate ∈ store.executed ↔
    ∃ pair ∈ store.outcomes, pair.1 = candidate
  emitted : ∀ node options, .emitted node options ∈ store.executed ↔
    ∃ pair ∈ store.emitted, pair.1 = (node, options)
  support : ∀ memo, store.generated = some memo → store.optionsAt ≤ memo.ranAt →
    store.SupportFresh
  generated : ∀ memo, store.generated = some memo →
    store.inputsChangedSince memo.ranAt = false →
      IsLogged store.remembered store.options store.executed

theorem Recorded.initial (options : Options) : Recorded { options := options } := by
  constructor <;> simp

/-- What changes no answer that a generation vouches for keeps the record. -/
theorem Recorded.follows {before after : Store} (h_recorded : before.Recorded)
    (h_sound : before.Sound) (h_follows : before.Follows after)
    (h_log : before.executed ⊆ after.executed)
    (h_generated : after.generated = before.generated)
    (h_support : before.SupportFresh → after.SupportFresh)
    (h_changedAt : ∀ (unit : Nat) (entry : UnitEntry) (memo : CollectedMemo),
      after.units[unit]? = some entry → entry.memo = some memo → memo.changedAt ≤ after.revision)
    (h_descriptor : ∀ candidate, .descriptor candidate ∈ after.executed ↔
      ∃ pair ∈ after.outcomes, pair.1 = candidate)
    (h_emitted : ∀ node options, .emitted node options ∈ after.executed ↔
      ∃ pair ∈ after.emitted, pair.1 = (node, options)) : after.Recorded where
  listedAt_le := h_follows.listedAt ▸ Nat.le_trans h_recorded.listedAt_le h_follows.revision_le
  optionsAt_le := h_follows.optionsAt ▸ Nat.le_trans h_recorded.optionsAt_le h_follows.revision_le
  changedAt_le := h_changedAt
  descriptor := h_descriptor
  emitted := h_emitted
  support memo h_memo h_optionsAt :=
    h_support (h_recorded.support memo (h_generated ▸ h_memo) (h_follows.optionsAt ▸ h_optionsAt))
  generated memo h_memo h_inputs := by
    rw [h_generated] at h_memo
    obtain ⟨h_before, h_remembered⟩ :=
      (h_sound.generated memo h_memo).unchangedSince h_follows h_inputs
    rw [h_remembered, h_follows.options]
    exact (h_recorded.generated memo h_memo h_before).mono h_log

/-! ## Changing inputs -/

section Changing

variable {store : Store} (h_recorded : store.Recorded) (h_sound : store.Sound)
include h_recorded h_sound

theorem Recorded.addUnit (source : Source) : (store.addUnit source).2.Recorded := by
  refine h_recorded.follows h_sound (follows_addUnit h_sound source) (List.Subset.refl _) rfl id
    (fun unit entry memo h_entry h_memo => ?_) h_recorded.descriptor h_recorded.emitted
  simp only [Store.addUnit, List.getElem?_append] at h_entry
  split at h_entry
  next => exact h_recorded.changedAt_le unit entry memo h_entry h_memo
  next =>
    -- Nothing was collected from the new unit.
    obtain rfl : _ = entry := List.mem_singleton.mp (List.mem_of_getElem? h_entry) |>.symm
    cases h_memo

theorem Recorded.setSource (unit : Nat) (change : Source → Source) :
    (store.setSource unit change).Recorded := by
  refine h_recorded.follows h_sound (follows_setSource h_sound unit change) (List.Subset.refl _)
    rfl id (fun other entry memo h_entry h_memo => ?_) h_recorded.descriptor h_recorded.emitted
  simp only [Store.setSource, List.getElem?_modify, Option.map_eq_map, Option.map_eq_some_iff]
    at h_entry
  obtain ⟨old, h_old, rfl⟩ := h_entry
  refine Nat.le_succ_of_le (h_recorded.changedAt_le other old memo h_old ?_)
  rw [← h_memo]
  split <;> rfl

/-- Setting the list outdates the generation. -/
theorem Recorded.setListed (units : List Nat) : (store.setListed units).Recorded where
  listedAt_le := Nat.le_refl _
  optionsAt_le := Nat.le_succ_of_le h_recorded.optionsAt_le
  changedAt_le unit entry memo h_entry h_memo :=
    Nat.le_succ_of_le (h_recorded.changedAt_le unit entry memo h_entry h_memo)
  descriptor := h_recorded.descriptor
  emitted := h_recorded.emitted
  support := h_recorded.support
  generated memo h_memo h_inputs := by
    have h_ranAt := (h_sound.generated memo h_memo).ranAt_le
    have h_listedAt := (inputsChangedSince_eq_false.mp h_inputs).1
    exact absurd h_listedAt (Nat.not_le_of_lt (Nat.lt_succ_of_le h_ranAt))

/-- Setting the options outdates the generation. -/
theorem Recorded.setOptions (options : Options) : (store.setOptions options).Recorded where
  listedAt_le := Nat.le_succ_of_le h_recorded.listedAt_le
  optionsAt_le := Nat.le_refl _
  changedAt_le unit entry memo h_entry h_memo :=
    Nat.le_succ_of_le (h_recorded.changedAt_le unit entry memo h_entry h_memo)
  descriptor := h_recorded.descriptor
  emitted := h_recorded.emitted
  support memo h_memo h_optionsAt := by
    have h_ranAt := (h_sound.generated memo h_memo).ranAt_le
    exact absurd h_optionsAt (Nat.not_le_of_lt (Nat.lt_succ_of_le h_ranAt))
  generated memo h_memo h_inputs := by
    have h_ranAt := (h_sound.generated memo h_memo).ranAt_le
    have h_optionsAt := (inputsChangedSince_eq_false.mp h_inputs).2.1
    exact absurd h_optionsAt (Nat.not_le_of_lt (Nat.lt_succ_of_le h_ranAt))

/-! ## Remembering -/

theorem Recorded.recollect {unit : Nat} {entry : UnitEntry}
    (h_entry : store.units[unit]? = some entry) (h_stale : entry.fresh? = none) :
    (store.recollect unit entry).Recorded := by
  refine h_recorded.follows h_sound (follows_recollect h_sound h_entry h_stale)
    (List.subset_cons_self _ _) rfl id (fun other new memo h_new h_memo => ?_)
    (by simpa [Store.recollect, execute] using h_recorded.descriptor)
    (by simpa [Store.recollect, execute] using h_recorded.emitted)
  simp only [Store.recollect, execute, List.getElem?_set] at h_new
  split at h_new
  next =>
    split at h_new
    next =>
      obtain rfl := Option.some.inj h_new
      obtain rfl := Option.some.inj h_memo
      simp only [UnitEntry.changedAt, Store.recollect, execute]
      cases h_old : entry.memo with
      | none => exact Nat.le_refl _
      | some old =>
        simp only
        split
        next => exact h_recorded.changedAt_le unit entry old h_entry h_old
        next => exact Nat.le_refl _
    next => cases h_new
  next => exact h_recorded.changedAt_le other new memo h_new h_memo

theorem Recorded.rememberOutcome (candidate : Candidate) (outcome : Outcome) :
    (store.rememberOutcome candidate outcome).Recorded := by
  refine h_recorded.follows h_sound (follows_of_units_eq h_sound rfl rfl ⟨rfl, rfl⟩ ⟨rfl, rfl⟩)
    (List.subset_cons_self _ _) rfl id h_recorded.changedAt_le (fun other => ?_)
    (by simpa [Store.rememberOutcome, execute] using h_recorded.emitted)
  have h_old := h_recorded.descriptor other
  simp [Store.rememberOutcome, execute, h_old, eq_comm]

theorem Recorded.rememberEmitted (options : Options) (node : Descriptor) (unit : OutputUnit) :
    (store.rememberEmitted options node unit).Recorded := by
  refine h_recorded.follows h_sound (follows_of_units_eq h_sound rfl rfl ⟨rfl, rfl⟩ ⟨rfl, rfl⟩)
    (List.subset_cons_self _ _) rfl id h_recorded.changedAt_le
    (by simpa [Store.rememberEmitted, execute] using h_recorded.descriptor)
    (fun other otherOptions => ?_)
  have h_old := h_recorded.emitted other otherOptions
  simp [Store.rememberEmitted, execute, h_old, eq_comm]

omit h_sound in
theorem supportFresh_rememberSupport (value : Option OutputUnit) :
    (store.rememberSupport value).SupportFresh :=
  ⟨_, rfl, h_recorded.optionsAt_le⟩

theorem Recorded.rememberSupport (value : Option OutputUnit) :
    (store.rememberSupport value).Recorded :=
  h_recorded.follows h_sound (follows_of_units_eq h_sound rfl rfl ⟨rfl, rfl⟩ ⟨rfl, rfl⟩)
    (List.subset_cons_self _ _) rfl
    (fun _ => supportFresh_rememberSupport h_recorded value) h_recorded.changedAt_le
    (by simpa [Store.rememberSupport, execute] using h_recorded.descriptor)
    (by simpa [Store.rememberSupport, execute] using h_recorded.emitted)

theorem Recorded.rememberGraph (value : Graph) : (store.rememberGraph value).Recorded :=
  h_recorded.follows h_sound (follows_of_units_eq h_sound rfl rfl ⟨rfl, rfl⟩ ⟨rfl, rfl⟩)
    (List.subset_cons_self _ _) rfl id h_recorded.changedAt_le
    (by simpa [Store.rememberGraph, execute] using h_recorded.descriptor)
    (by simpa [Store.rememberGraph, execute] using h_recorded.emitted)

omit h_sound in
/-- A generation vouches for what it has asked for. -/
theorem Recorded.rememberGenerated (value : Generation) (h_support : store.SupportFresh)
    (h_logged : IsLogged store.remembered store.options store.executed) :
    (store.rememberGenerated value).Recorded where
  listedAt_le := h_recorded.listedAt_le
  optionsAt_le := h_recorded.optionsAt_le
  changedAt_le := h_recorded.changedAt_le
  descriptor := by simpa [Store.rememberGenerated, execute] using h_recorded.descriptor
  emitted := by simpa [Store.rememberGenerated, execute] using h_recorded.emitted
  support _ _ _ := h_support
  generated _ _ _ := h_logged.mono (List.subset_cons_self _ _)

end Changing

/-! ## Collecting -/

/-- Something was never collected from the unit, or the unit was set since. -/
def isStale (store : Store) (unit : Nat) : Bool :=
  (store.units[unit]?.map (·.fresh?.isNone)).getD false

theorem isStale_eq_false {store : Store} {unit : Nat} :
    store.isStale unit = false ↔ store.Fresh unit := by
  unfold isStale Fresh
  cases store.units[unit]? <;> simp [Option.isSome_iff_ne_none]

/-- One execution for each of the given units that is stale. -/
def recollections (store : Store) (units : List Nat) : Query → Nat
  | .collected unit => if unit ∈ units ∧ store.isStale unit = true then 1 else 0
  | _ => 0

theorem askCollected_cases (store : Store) (unit : Nat) :
    store.isStale unit = false ∧ (store.askCollected unit).2 = store ∨
    ∃ entry, store.units[unit]? = some entry ∧ entry.fresh? = none ∧
      store.isStale unit = true ∧ (store.askCollected unit).2 = store.recollect unit entry := by
  unfold isStale askCollected
  cases h_entry : store.units[unit]? with
  | none => exact .inl ⟨rfl, rfl⟩
  | some entry =>
    cases h_fresh : entry.fresh? with
    | none => exact .inr ⟨entry, rfl, h_fresh, by simp [h_fresh], by simp [h_fresh]⟩
    | some value => exact .inl ⟨by simp [h_fresh], by simp [h_fresh]⟩

theorem isStale_recollect {store : Store} (h_sound : store.Sound) {unit : Nat} {entry : UnitEntry}
    (h_entry : store.units[unit]? = some entry) (other : Nat) :
    (store.recollect unit entry).isStale other = (decide (other ≠ unit) && store.isStale other) := by
  obtain ⟨h_lt, -⟩ := List.getElem?_eq_some_iff.mp h_entry
  by_cases h_other : unit = other
  · subst h_other
    have h_fresh := UnitEntry.fresh?_recollected (h_sound.units unit entry h_entry).setAt_le
    simp [isStale, recollect, execute, h_lt, h_fresh]
  · simp [isStale, recollect, execute, h_other, Ne.symm h_other]

/-- Each stale unit is collected once, however often it is asked for. -/
theorem executes_askAll_collected (units : List Nat) {store : Store} (h_sound : store.Sound)
    (h_recorded : store.Recorded) :
    (askAll askCollected units store).2.Recorded ∧
      store.Executes (askAll askCollected units store).2 (store.recollections units) := by
  induction units generalizing store with
  | nil =>
    refine ⟨h_recorded, fun query => ?_⟩
    cases query <;> simp [askAll, recollections]
  | cons unit rest ih =>
    have h_next := (answers_askCollected unit store h_sound).2.sound
    rw [snd_askAll_cons]
    rcases askCollected_cases store unit with ⟨h_fresh, h_same⟩ | ⟨entry, h_entry, h_none, h_stale,
      h_recollect⟩
    · -- A fresh unit costs nothing.
      rw [h_same]
      obtain ⟨h_rest, h_executes⟩ := ih h_sound h_recorded
      refine ⟨h_rest, fun query => ?_⟩
      rw [h_executes query]
      cases query with
      | collected other => grind [recollections]
      | _ => rfl
    · rw [h_recollect] at h_next ⊢
      have h_once : store.Executes (store.recollect unit entry) (once (.collected unit)) :=
        Executes.of_cons rfl
      obtain ⟨h_rest, h_executes⟩ := ih h_next (h_recorded.recollect h_sound h_entry h_none)
      refine ⟨h_rest, fun query => ?_⟩
      rw [h_executes query, h_once query]
      cases query with
      | collected other =>
        simp only [recollections, isStale_recollect h_sound h_entry, once, Query.collected.injEq]
        grind
      | _ => simp [recollections, once]

/-- Asking for fresh units changes nothing. -/
theorem askAll_collected_of_fresh (units : List Nat) {store : Store}
    (h_fresh : ∀ unit ∈ units, store.Fresh unit) : (askAll askCollected units store).2 = store := by
  induction units with
  | nil => rfl
  | cons unit rest ih =>
    obtain ⟨h_first, h_rest⟩ := List.forall_mem_cons.mp h_fresh
    have h_same : (store.askCollected unit).2 = store := by
      rcases askCollected_cases store unit with ⟨-, h_same⟩ | ⟨_, _, _, h_stale, _⟩
      · exact h_same
      · simp [isStale_eq_false.mpr h_first] at h_stale
    rw [snd_askAll_cons, h_same, ih h_rest]

theorem askListed_of_fresh {store : Store} (h_fresh : store.ListedFresh) :
    store.askListed.2 = store :=
  askAll_collected_of_fresh store.listed h_fresh

/-! ## Outcomes and units of nodes -/

/-- All that differs are the log and the tables of outcomes and of units of nodes. -/
def FillsTables (before after : Store) : Prop :=
  after = { before with
    outcomes := after.outcomes, emitted := after.emitted, executed := after.executed }

theorem FillsTables.trans {first second third : Store} (h_first : first.FillsTables second)
    (h_second : second.FillsTables third) : first.FillsTables third := by
  unfold FillsTables at *
  rw [h_second, h_first]

theorem executes_askOutcome (candidate : Candidate) {store : Store} (h_sound : store.Sound)
    (h_recorded : store.Recorded) :
    (store.askOutcome candidate).2.Recorded ∧ store.FillsTables (store.askOutcome candidate).2 ∧
      store.Executes (store.askOutcome candidate).2
        (firstTimes [.descriptor candidate] store.executed) := by
  have h_log := h_recorded.descriptor candidate
  unfold askOutcome
  split
  next key outcome h_find =>
    have h_key : key = candidate := by simpa using List.find?_some h_find
    have h_logged := h_log.mpr ⟨_, List.mem_of_find?_eq_some h_find, h_key⟩
    exact ⟨h_recorded, rfl, by simpa [firstTimes_eq_zero, h_logged] using Executes.refl store⟩
  next h_find =>
    have h_new : .descriptor candidate ∉ store.executed := by
      rw [h_log]
      rintro ⟨pair, h_pair, h_key⟩
      simpa [h_key] using List.find?_eq_none.mp h_find pair h_pair
    rw [firstTimes_singleton h_new]
    exact ⟨h_recorded.rememberOutcome h_sound candidate _, rfl, Executes.of_cons rfl⟩

theorem executes_askEmitted (options : Options) (node : Descriptor) {store : Store}
    (h_sound : store.Sound) (h_recorded : store.Recorded) :
    (store.askEmitted options node).2.Recorded ∧
      store.FillsTables (store.askEmitted options node).2 ∧
      store.Executes (store.askEmitted options node).2
        (firstTimes [.emitted node options] store.executed) := by
  have h_log := h_recorded.emitted node options
  unfold askEmitted
  split
  next key unit h_find =>
    have h_key : key = (node, options) := by simpa using List.find?_some h_find
    have h_logged := h_log.mpr ⟨_, List.mem_of_find?_eq_some h_find, h_key⟩
    exact ⟨h_recorded, rfl, by simpa [firstTimes_eq_zero, h_logged] using Executes.refl store⟩
  next h_find =>
    have h_new : .emitted node options ∉ store.executed := by
      rw [h_log]
      rintro ⟨pair, h_pair, h_key⟩
      simpa [h_key] using List.find?_eq_none.mp h_find pair h_pair
    rw [firstTimes_singleton h_new]
    exact ⟨h_recorded.rememberEmitted h_sound options node _, rfl, Executes.of_cons rfl⟩

/-- Sound and recorded, and different from `before` in the tables only. -/
structure Filled (before after : Store) : Prop where
  sound : after.Sound
  recorded : after.Recorded
  fills : before.FillsTables after

theorem Filled.refl {store : Store} (h_sound : store.Sound) (h_recorded : store.Recorded) :
    store.Filled store :=
  ⟨h_sound, h_recorded, rfl⟩

theorem Filled.listedFresh {before after : Store} (h_filled : before.Filled after)
    (h_fresh : before.ListedFresh) : after.ListedFresh := by
  rw [h_filled.fills]
  exact h_fresh

theorem Filled.supportFresh {before after : Store} (h_filled : before.Filled after)
    (h_support : before.SupportFresh) : after.SupportFresh := by
  rw [h_filled.fills]
  exact h_support

theorem Filled.valid? {α : Type} {before after : Store} (h_filled : before.Filled after)
    (memo? : Option (Memo α)) : after.valid? memo? = before.valid? memo? := by
  rw [h_filled.fills]
  rfl

theorem executes_askAll_outcomes (candidates : List Candidate) {first store : Store}
    (h_store : first.Filled store) :
    first.Filled (askAll askOutcome candidates store).2 ∧
      store.Executes (askAll askOutcome candidates store).2
        (firstTimes (candidates.map .descriptor) store.executed) := by
  rw [List.map_eq_flatMap]
  refine executes_askAll (fun candidate store h_store => ?_) candidates h_store
  obtain ⟨h_recorded, h_fills, h_executes⟩ :=
    executes_askOutcome candidate h_store.sound h_store.recorded
  exact ⟨⟨(answers_askOutcome candidate store h_store.sound).2.sound, h_recorded,
    h_store.fills.trans h_fills⟩, h_executes⟩

theorem executes_askOutcomes (found : List Collected) {store : Store} (h_sound : store.Sound)
    (h_recorded : store.Recorded) :
    store.Filled (store.askOutcomes found).2 ∧
      store.Executes (store.askOutcomes found).2
        (firstTimes ((found.flatMap (·.candidates)).map .descriptor) store.executed) := by
  rw [List.map_flatMap]
  exact executes_askAll (P := store.Filled)
    (fun collected _ h_other => executes_askAll_outcomes collected.candidates h_other) found
    (.refl h_sound h_recorded)

theorem executes_askAll_emitted (options : Options) (nodes : List Descriptor) {store : Store}
    (h_sound : store.Sound) (h_recorded : store.Recorded) :
    store.Filled (askAll (askEmitted options) nodes store).2 ∧
      store.Executes (askAll (askEmitted options) nodes store).2
        (firstTimes (nodes.map (.emitted · options)) store.executed) := by
  rw [List.map_eq_flatMap]
  refine executes_askAll (fun node other h_other => ?_) nodes (.refl h_sound h_recorded)
  obtain ⟨h_next, h_fills, h_executes⟩ :=
    executes_askEmitted options node h_other.sound h_other.recorded
  exact ⟨⟨(answers_askEmitted options node other h_other.sound).2.sound, h_next,
    h_other.fills.trans h_fills⟩, h_executes⟩

/-! ## The support unit -/

/-- The support unit is computed only if it is not up to date. -/
theorem executes_askSupport {store : Store} (h_sound : store.Sound) (h_recorded : store.Recorded) :
    store.askSupport.2.Recorded ∧ store.askSupport.2.SupportFresh ∧
      ∃ cost, (store.SupportFresh → cost = 0) ∧ (∀ query ≠ .support, cost query = 0) ∧
        store.Executes store.askSupport.2 cost := by
  have h_computed : ¬ store.SupportFresh → store.computeSupport.2.Recorded ∧
      store.computeSupport.2.SupportFresh ∧
      ∃ cost, (store.SupportFresh → cost = 0) ∧ (∀ query ≠ .support, cost query = 0) ∧
        store.Executes store.computeSupport.2 cost := fun h_stale =>
    ⟨h_recorded.rememberSupport h_sound _, supportFresh_rememberSupport h_recorded _,
      once .support, fun h_fresh => absurd h_fresh h_stale, fun _ h_query => if_neg h_query,
      Executes.of_cons rfl⟩
  unfold askSupport
  split
  next memo h_memo =>
    split
    next h_stale =>
      refine h_computed ?_
      rintro ⟨other, h_other, h_optionsAt⟩
      obtain rfl : memo = other := Option.some.inj (h_memo.symm.trans h_other)
      exact absurd h_stale (Nat.not_lt_of_le h_optionsAt)
    next h_fresh =>
      exact ⟨h_recorded, ⟨memo, h_memo, Nat.le_of_not_lt h_fresh⟩, 0, fun _ => rfl, fun _ _ => rfl,
        .refl store⟩
  next h_memo =>
    refine h_computed ?_
    rintro ⟨other, h_other, -⟩
    cases h_memo.symm.trans h_other

/-! ## The graph -/

/-- With all candidates described, the graph costs no more than itself. -/
theorem executes_askGraph {store : Store} (h_sound : store.Sound) (h_recorded : store.Recorded)
    (h_fresh : store.ListedFresh)
    (h_described : ∀ candidate ∈ store.inputs.compilation.collected.flatMap (·.candidates),
      .descriptor candidate ∈ store.executed) :
    store.askGraph.2.Recorded ∧ (store.SupportFresh → store.askGraph.2.SupportFresh) ∧
      store.Executes store.askGraph.2
        (if (store.valid? store.graph).isSome then 0 else once .graph) := by
  have h_listed := askListed_of_fresh h_fresh
  have h_found := (askListed_spec h_sound).1
  unfold askGraph askListing
  generalize store.askListed = asked at h_listed h_found
  obtain ⟨found, listed⟩ := asked
  simp only at h_listed h_found
  subst h_listed
  simp only
  split
  next value h_valid => simpa [h_valid, h_recorded] using Executes.refl listed
  next h_stale =>
    obtain ⟨h_filled, h_executes⟩ := executes_askAll_outcomes (found.flatMap (·.candidates))
      (Filled.refl h_sound h_recorded)
    rw [firstTimes_eq_zero (List.forall_mem_map.mpr (h_found ▸ h_described))] at h_executes
    refine ⟨h_filled.recorded.rememberGraph h_filled.sound _, fun h_support => ?_, ?_⟩
    · exact h_filled.supportFresh h_support
    · have h_graph : (computeGraph found listed).2.Executes
          (rememberGraph (computeGraph found listed).1 (computeGraph found listed).2)
          (once .graph) := .of_cons rfl
      simpa [h_stale] using h_executes.trans h_graph

/-! ## The generation -/

/-- What computing the generation of fresh units executes: what was never asked for, and the graph
    and the support unit if they are out of date. -/
theorem executes_computeGenerated {store : Store} (h_sound : store.Sound)
    (h_recorded : store.Recorded) (h_fresh : store.ListedFresh) {found : List Collected}
    (h_found : found = store.inputs.compilation.collected) :
    (computeGenerated found store).2.Recorded ∧ (computeGenerated found store).2.SupportFresh ∧
      IsLogged found store.options (computeGenerated found store).2.executed ∧
      ∃ support, (store.SupportFresh → support = 0) ∧ (∀ query ≠ .support, support query = 0) ∧
        store.Executes (computeGenerated found store).2
          (firstTimes ((found.flatMap (·.candidates)).map .descriptor) store.executed
            + (if (store.valid? store.graph).isSome then 0 else once .graph) + support
            + firstTimes ((graphOf found store.options).nodes.map (.emitted · store.options))
                store.executed) := by
  have h_graph_eq : graphOf found store.options = store.inputs.compilation.graph := by
    rw [h_found]
    rfl
  simp only [computeGenerated]
  -- The candidates.
  obtain ⟨h_filled, h_first⟩ := executes_askOutcomes found h_sound h_recorded
  obtain ⟨-, h_remembers⟩ := answers_askOutcomes found store h_sound
  generalize askOutcomes found store = first at h_filled h_first h_remembers ⊢
  -- The graph.
  obtain ⟨h_recorded₂, h_support₂, h_second⟩ := executes_askGraph h_filled.sound h_filled.recorded
    (h_filled.listedFresh h_fresh) (fun candidate h_candidate => h_first.mem_of_firstTimes
      (List.mem_map_of_mem (by rwa [h_remembers.inputs, ← h_found] at h_candidate)))
  obtain ⟨h_graph, h_remembers₂⟩ := answers_askGraph first.2 h_filled.sound
  have h_nodes : first.2.askGraph.1 = graphOf found store.options := by
    rw [h_graph_eq, ← h_remembers.inputs, h_graph]
  have h_valid : first.2.valid? first.2.graph = store.valid? store.graph := by
    rw [h_filled.valid?, h_filled.fills]
  rw [h_valid] at h_second
  generalize askGraph first.2 = second at h_recorded₂ h_support₂ h_second h_nodes h_remembers₂ ⊢
  -- The support unit.
  obtain ⟨h_recorded₃, h_support₃, support, h_free, h_only, h_third⟩ :=
    executes_askSupport h_remembers₂.sound h_recorded₂
  obtain ⟨-, h_remembers₃⟩ := answers_askSupport second.2 h_remembers₂.sound
  generalize askSupport second.2 = third at h_recorded₃ h_support₃ h_third h_remembers₃ ⊢
  have h_options : third.2.options = store.options := by
    rw [h_remembers₃.options, h_remembers₂.options, h_remembers.options]
  rw [h_nodes, h_options]
  -- The units of the nodes, none of which was emitted on the way.
  obtain ⟨h_filled₄, h_fourth⟩ := executes_askAll_emitted store.options
    (graphOf found store.options).nodes h_remembers₃.sound h_recorded₃
  have h_before := (h_first.trans h_second).trans h_third
  have h_log : ∀ node, .emitted node store.options ∈ third.2.executed ↔
      .emitted node store.options ∈ store.executed := by
    intro node
    have h_ne : Query.emitted node store.options ≠ .support := by
      intro h_eq
      cases h_eq
    have h_support := h_only (.emitted node store.options) h_ne
    rw [h_before.mem_iff]
    split <;> simp [firstTimes, once, h_support]
  have h_emitted := fun node (h_node : node ∈ (graphOf found store.options).nodes) =>
    h_fourth.mem_of_firstTimes (List.mem_map_of_mem (f := (Query.emitted · store.options)) h_node)
  rw [firstTimes_congr (List.forall_mem_map.mpr fun node _ => h_log node)] at h_fourth
  refine ⟨h_filled₄.recorded, h_filled₄.supportFresh h_support₃, ⟨?_, h_emitted⟩, support,
    fun h_support => h_free (h_support₂ (h_filled.supportFresh h_support)), h_only,
    h_before.trans h_fourth⟩
  intro candidate h_candidate
  have h_described := h_first.mem_of_firstTimes (List.mem_map_of_mem (f := Query.descriptor) h_candidate)
  exact h_fourth.subset (h_third.subset (h_second.subset h_described))

end Store
end FieldDelta.Query
