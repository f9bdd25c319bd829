import FieldDelta.Proofs.Compilation
import FieldDelta.Proofs.Query.Execution

/-! # Early cutoff

A generation that follows edits executes what the edits have made necessary, and nothing else.

* Right after a generation the store is up to date (`UpToDate`): asking again changes nothing.
* Edits of listed units make just these units stale (`Edited`).
* If they are collected with the values they had, the generation is still valid.  If not, what was
  never asked for is computed: outcomes of new candidates and units of new nodes.

A node that was there before was emitted before, with the same options, so it is never emitted
again.
-/

namespace FieldDelta.Query

namespace Store

/-! ## Up to date -/

/-- The listed units are fresh and the generation is valid. -/
structure UpToDate (store : Store) : Prop where
  sound : store.Sound
  recorded : store.Recorded
  fresh : store.ListedFresh
  generated : ∃ memo, store.generated = some memo ∧ store.inputsChangedSince memo.ranAt = false

theorem valid?_isSome {α : Type} {store : Store} {memo? : Option (Memo α)} :
    (store.valid? memo?).isSome ↔
      ∃ memo, memo? = some memo ∧ store.inputsChangedSince memo.ranAt = false := by
  unfold valid?
  cases memo? with
  | none => simp
  | some memo => cases h_inputs : store.inputsChangedSince memo.ranAt <;> simp [h_inputs]

theorem snd_askListing_of_valid {α : Type} {memo? : Store → Option (Memo α)}
    {compute : List Collected → Store → α × Store} {remember : α → Store → Store} {store : Store}
    (h_valid : (store.askListed.2.valid? (memo? store.askListed.2)).isSome) :
    (askListing memo? compute remember store).2 = store.askListed.2 := by
  obtain ⟨value, h_value⟩ := Option.isSome_iff_exists.mp h_valid
  simp [askListing, h_value]

theorem snd_askListing_of_outdated {α : Type} {memo? : Store → Option (Memo α)}
    {compute : List Collected → Store → α × Store} {remember : α → Store → Store} {store : Store}
    (h_outdated : ¬ (store.askListed.2.valid? (memo? store.askListed.2)).isSome) :
    (askListing memo? compute remember store).2 =
      remember (compute store.askListed.1 store.askListed.2).1
        (compute store.askListed.1 store.askListed.2).2 := by
  have h_none := Option.not_isSome_iff_eq_none.mp h_outdated
  simp [askListing, h_none]

/-- Asking again changes nothing. -/
theorem UpToDate.askGenerated_eq {store : Store} (h_upToDate : store.UpToDate) :
    store.askGenerated.2 = store := by
  have h_listed := askListed_of_fresh h_upToDate.fresh
  rw [askGenerated, snd_askListing_of_valid, h_listed]
  rw [h_listed, valid?_isSome]
  exact h_upToDate.generated

/-- All that the present generation asks for is logged. -/
theorem UpToDate.isLogged {store : Store} (h_upToDate : store.UpToDate) :
    IsLogged store.inputs.compilation.collected store.options store.executed := by
  obtain ⟨memo, h_memo, h_inputs⟩ := h_upToDate.generated
  rw [← remembered_eq_collected h_upToDate.sound h_upToDate.fresh]
  exact h_upToDate.recorded.generated memo h_memo h_inputs

theorem UpToDate.supportFresh {store : Store} (h_upToDate : store.UpToDate) :
    store.SupportFresh := by
  obtain ⟨memo, h_memo, h_inputs⟩ := h_upToDate.generated
  exact h_upToDate.recorded.support memo h_memo (inputsChangedSince_eq_false.mp h_inputs).2.1

section Asking

variable {store : Store} (h_sound : store.Sound) (h_recorded : store.Recorded)
include h_sound h_recorded

theorem recorded_askListed : store.askListed.2.Recorded :=
  (executes_askAll_collected store.listed h_sound h_recorded).1

theorem recorded_askGraph : store.askGraph.2.Recorded := by
  have h_listed := recorded_askListed h_sound h_recorded
  obtain ⟨-, h_remembers, -⟩ := askListed_spec h_sound
  by_cases h_valid : (store.askListed.2.valid? store.askListed.2.graph).isSome
  · rwa [askGraph, snd_askListing_of_valid h_valid]
  · rw [askGraph, snd_askListing_of_outdated h_valid]
    obtain ⟨h_filled, -⟩ := executes_askAll_outcomes (store.askListed.1.flatMap (·.candidates))
      (Filled.refl h_remembers.sound h_listed)
    exact h_filled.recorded.rememberGraph h_filled.sound _

/-- A generation leaves the store up to date. -/
theorem upToDate_askGenerated : store.askGenerated.2.UpToDate := by
  have h_listed := recorded_askListed h_sound h_recorded
  obtain ⟨h_found, h_remembers, h_fresh⟩ := askListed_spec h_sound
  have h_asked := (answers_askGenerated store h_sound).2
  by_cases h_valid : (store.askListed.2.valid? store.askListed.2.generated).isSome
  · rw [askGenerated, snd_askListing_of_valid h_valid]
    exact ⟨h_remembers.sound, h_listed, h_fresh, valid?_isSome.mp h_valid⟩
  · rw [← h_remembers.inputs] at h_found
    obtain ⟨h_computed, h_support, h_logged, -⟩ :=
      executes_computeGenerated h_remembers.sound h_listed h_fresh h_found
    obtain ⟨-, h_more⟩ := answers_computeGenerated store.askListed.2 h_remembers.sound
    simp only [← h_found] at h_more
    rw [askGenerated, snd_askListing_of_outdated h_valid] at h_asked ⊢
    generalize computeGenerated store.askListed.1 store.askListed.2 = computed at *
    have h_computed_fresh := h_more.listedFresh h_fresh
    have h_remembered : computed.2.remembered = store.askListed.1 := by
      rw [remembered_eq_collected h_more.sound h_computed_fresh, h_more.inputs, h_found]
    refine ⟨h_asked.sound, h_computed.rememberGenerated _ h_support ?_, h_computed_fresh, _, rfl,
      ?_⟩
    · rw [h_remembered, h_more.options]
      exact h_logged
    · -- Nothing has changed since this revision.
      refine inputsChangedSince_eq_false.mpr ⟨h_computed.listedAt_le, h_computed.optionsAt_le,
        fun unit h_unit entry h_entry => ?_⟩
      have h_fresh_unit := h_computed_fresh unit h_unit entry h_entry
      cases h_memo : entry.memo with
      | none => simp [UnitEntry.fresh?, h_memo] at h_fresh_unit
      | some memo =>
        simpa [UnitEntry.changedSince, h_memo] using
          h_computed.changedAt_le unit entry memo h_entry h_memo

/-- Every step keeps the record. -/
theorem recorded_step (step : Step) : (store.step step).2.Recorded := by
  cases step with
  | addUnit source => exact h_recorded.addUnit h_sound source
  | setText unit text =>
    exact h_recorded.setSource h_sound unit fun source => { source with text := text }
  | setPath unit path =>
    exact h_recorded.setSource h_sound unit fun source => { source with path := path }
  | setModule unit modulePath =>
    exact h_recorded.setSource h_sound unit fun source => { source with modulePath := modulePath }
  | setListed units => exact h_recorded.setListed h_sound units
  | setOptions options => exact h_recorded.setOptions h_sound options
  | ask query =>
    cases query with
    | collected unit =>
      exact (executes_askAll_collected [unit] h_sound h_recorded).1
    | descriptor candidate => exact (executes_askOutcome candidate h_sound h_recorded).1
    | graph => exact recorded_askGraph h_sound h_recorded
    | support => exact (executes_askSupport h_sound h_recorded).1
    | emitted node options => exact (executes_askEmitted options node h_sound h_recorded).1
    | generated => exact (upToDate_askGenerated h_sound h_recorded).recorded

theorem recorded_run (steps : List Step) :
    (Store.run steps store).2.Sound ∧ (Store.run steps store).2.Recorded := by
  induction steps generalizing store with
  | nil => exact ⟨h_sound, h_recorded⟩
  | cons first rest ih =>
    exact ih (step_spec h_sound first).2.1 (recorded_step h_sound h_recorded first)

end Asking

/-! ## Edits -/

end Store

/-- The unit whose source a step sets. -/
def Step.editedUnit? : Step → Option Nat
  | .setText unit _ => some unit
  | .setPath unit _ => some unit
  | .setModule unit _ => some unit
  | _ => none

namespace Store

theorem step_of_editedUnit? (store : Store) {step : Step} {unit : Nat}
    (h_unit : step.editedUnit? = some unit) :
    ∃ change, (store.step step).2 = store.setSource unit change := by
  cases step with
  | setText other text =>
    cases h_unit
    exact ⟨fun source => { source with text := text }, rfl⟩
  | setPath other path =>
    cases h_unit
    exact ⟨fun source => { source with path := path }, rfl⟩
  | setModule other modulePath =>
    cases h_unit
    exact ⟨fun source => { source with modulePath := modulePath }, rfl⟩
  | _ => cases h_unit

/-- The sources of the given units were set on the way, and nothing else has happened. -/
structure Edited (before after : Store) (units : List Nat) : Prop where
  frame : after = { before with revision := after.revision, units := after.units }
  revision_le : before.revision ≤ after.revision
  kept : ∀ unit ∉ units, after.units[unit]? = before.units[unit]?
  set : ∀ unit ∈ units, ∀ entry, before.units[unit]? = some entry →
    ∃ source setAt, before.revision < setAt ∧ setAt ≤ after.revision ∧
      after.units[unit]? = some { entry with source := source, setAt := setAt }

theorem Edited.refl (store : Store) : store.Edited store [] :=
  ⟨rfl, Nat.le_refl _, fun _ _ => rfl, nofun⟩

theorem Edited.cons {first second third : Store} {unit : Nat} {units : List Nat}
    {change : Source → Source} (h_second : second = first.setSource unit change)
    (h_rest : second.Edited third units) : first.Edited third (unit :: units) where
  frame := by
    rw [h_rest.frame, h_second]
    rfl
  revision_le := by
    have h_le := h_rest.revision_le
    rw [h_second] at h_le
    exact Nat.le_of_succ_le h_le
  kept other h_other := by
    obtain ⟨h_unit, h_units⟩ := not_or.mp (List.mem_cons.not.mp h_other)
    rw [h_rest.kept other h_units, h_second]
    simp [setSource, Ne.symm h_unit]
  set other h_other entry h_entry := by
    have h_le := h_rest.revision_le
    by_cases h_units : other ∈ units
    · -- The last time that it was set counts.
      have h_mid : ∃ source setAt, second.units[other]? =
          some { entry with source := source, setAt := setAt } := by
        by_cases h_unit : unit = other
        · exact ⟨change entry.source, first.revision + 1, by simp [h_second, setSource, h_unit, h_entry]⟩
        · exact ⟨entry.source, entry.setAt, by simp [h_second, setSource, h_unit, h_entry]⟩
      obtain ⟨source, setAt, h_mid⟩ := h_mid
      obtain ⟨source, setAt, h_lt, h_setAt, h_new⟩ := h_rest.set other h_units _ h_mid
      rw [h_second] at h_lt
      exact ⟨source, setAt, Nat.lt_of_succ_lt h_lt, h_setAt, h_new⟩
    · obtain rfl := (List.mem_cons.mp h_other).resolve_right h_units
      rw [h_second] at h_le
      refine ⟨change entry.source, first.revision + 1, Nat.lt_succ_self _, h_le, ?_⟩
      rw [h_rest.kept other h_units, h_second]
      simp [setSource, h_entry]

/-- Edits set the sources of their units. -/
theorem edited_run {edits : List Step} {store : Store}
    (h_edits : ∀ edit ∈ edits, edit.editedUnit?.isSome) :
    store.Edited (Store.run edits store).2 (edits.filterMap Step.editedUnit?) := by
  induction edits generalizing store with
  | nil => exact .refl store
  | cons first rest ih =>
    obtain ⟨h_first, h_rest⟩ := List.forall_mem_cons.mp h_edits
    obtain ⟨unit, h_unit⟩ := Option.isSome_iff_exists.mp h_first
    obtain ⟨change, h_step⟩ := step_of_editedUnit? store h_unit
    rw [List.filterMap_cons_some h_unit]
    exact .cons h_step (ih h_rest)

/-- One execution of each of the given queries. -/
def onceEach (queries : List Query) : Query → Nat :=
  fun query => if query ∈ queries then 1 else 0

/-- The executions that edits of the given units make necessary: collecting them, the outcome of
    each candidate and the unit of each node that there was none of, and the graph and the
    generation if anything has come out different. -/
def editCost (asked edited : Store) (units : List Nat) : Query → Nat
  | .collected unit => if unit ∈ units then 1 else 0
  | .descriptor candidate =>
    if candidate ∈ edited.inputs.compilation.candidates ∧
      .descriptor candidate ∉ asked.executed then 1 else 0
  | .emitted node options =>
    if node ∈ edited.inputs.compilation.graph.nodes ∧ options = edited.options ∧
      .emitted node options ∉ asked.executed then 1 else 0
  | .support => 0
  | .graph =>
    if edited.inputs.compilation.collected = asked.inputs.compilation.collected then 0 else 1
  | .generated =>
    if edited.inputs.compilation.collected = asked.inputs.compilation.collected then 0 else 1

theorem editCost_of_same {asked edited : Store} (units : List Nat)
    (h_logged : IsLogged asked.inputs.compilation.collected asked.options asked.executed)
    (h_options : edited.options = asked.options)
    (h_same : edited.inputs.compilation.collected = asked.inputs.compilation.collected) :
    editCost asked edited units = onceEach (units.map .collected) := by
  rw [← h_same, ← h_options] at h_logged
  funext query
  cases query with
  | collected unit => simp [editCost, onceEach]
  | descriptor candidate =>
    rw [editCost, if_neg fun h_new => h_new.2 (h_logged.descriptor candidate h_new.1)]
    simp [onceEach]
  | emitted node options =>
    rw [editCost, if_neg fun ⟨h_node, h_eq, h_new⟩ => h_new (h_eq ▸ h_logged.emitted node h_node)]
    simp [onceEach]
  | _ => simp [editCost, onceEach, h_same]

theorem editCost_of_changed {asked edited : Store} (units : List Nat)
    (h_changed : edited.inputs.compilation.collected ≠ asked.inputs.compilation.collected) :
    editCost asked edited units =
      onceEach (units.map .collected)
        + (firstTimes (edited.inputs.compilation.candidates.map .descriptor) asked.executed
          + once .graph
          + firstTimes (edited.inputs.compilation.graph.nodes.map (.emitted · edited.options))
              asked.executed)
        + once .generated := by
  funext query
  cases query with
  | emitted node options =>
    simp only [editCost, onceEach, firstTimes, once, Pi.add_apply, List.mem_map]
    by_cases h_options : options = edited.options
    · simp [h_options]
    · simp [h_options, Ne.symm h_options]
  | _ => simp [editCost, onceEach, firstTimes, once, h_changed]

/-! ## Collecting again -/

/-- What was last collected from a unit. -/
def lastCollected? (store : Store) (unit : Nat) : Option Collected :=
  store.units[unit]?.bind (·.remembered?)

/-- Collecting sets the memos of stale units and the log. -/
theorem frame_askAll_collected (units : List Nat) (store : Store) :
    (askAll askCollected units store).2 = { store with
      units := (askAll askCollected units store).2.units
      executed := (askAll askCollected units store).2.executed } := by
  induction units generalizing store with
  | nil => rfl
  | cons unit rest ih =>
    rw [snd_askAll_cons, ih]
    rcases askCollected_cases store unit with ⟨-, h_same⟩ | ⟨entry, -, -, -, h_recollect⟩
    · rw [h_same]
    · rw [h_recollect]
      rfl

/-- A unit that is collected anew is collected anew just once. -/
theorem units_askAll_collected (units : List Nat) {store : Store} (h_sound : store.Sound)
    {unit : Nat} {entry : UnitEntry} (h_entry : store.units[unit]? = some entry) :
    (askAll askCollected units store).2.units[unit]? =
      some (if unit ∈ units ∧ store.isStale unit = true then entry.recollected store.revision
        else entry) := by
  induction units generalizing store entry with
  | nil => simpa [askAll] using h_entry
  | cons first rest ih =>
    have h_next := (answers_askCollected first store h_sound).2.sound
    rw [snd_askAll_cons]
    rcases askCollected_cases store first with ⟨h_fresh, h_same⟩ | ⟨other, h_other, h_none, h_stale,
      h_recollect⟩
    · rw [h_same, ih h_sound h_entry]
      grind
    · rw [h_recollect] at h_next ⊢
      have h_frame : (store.recollect first other).revision = store.revision := rfl
      by_cases h_first : first = unit
      · subst h_first
        obtain rfl : other = entry := Option.some.inj (h_other.symm.trans h_entry)
        obtain ⟨h_lt, -⟩ := List.getElem?_eq_some_iff.mp h_entry
        have h_new : (store.recollect first other).units[first]? =
            some (other.recollected store.revision) := by
          simp [recollect, execute, h_lt]
        rw [ih h_next h_new, isStale_recollect h_sound h_other]
        simp [h_stale]
      · have h_new : (store.recollect first other).units[unit]? = some entry := by
          simp [recollect, execute, h_first, h_entry]
        rw [ih h_next h_new, isStale_recollect h_sound h_other, h_frame]
        simp [Ne.symm h_first]

section Editing

variable {asked edited : Store} {units : List Nat} (h_asked : asked.UpToDate)
  (h_edited : asked.Edited edited units)
include h_asked h_edited

/-- Just the edited units are stale. -/
theorem isStale_edited {unit : Nat} (h_listed : unit ∈ asked.listed) :
    edited.isStale unit = decide (unit ∈ units) := by
  have h_lt := h_asked.sound.listed_lt unit h_listed
  have h_entry : asked.units[unit]? = some asked.units[unit] := List.getElem?_eq_getElem h_lt
  have h_fresh := h_asked.fresh unit h_listed _ h_entry
  have h_unit := h_asked.sound.units unit _ h_entry
  by_cases h_mem : unit ∈ units
  · obtain ⟨source, setAt, h_lt_setAt, -, h_new⟩ := h_edited.set unit h_mem _ h_entry
    cases h_memo : asked.units[unit].memo with
    | none => simp [UnitEntry.fresh?, h_memo] at h_fresh
    | some memo =>
      have h_ranAt : memo.ranAt < setAt :=
        Nat.lt_of_le_of_lt (h_unit.ranAt_le memo h_memo) h_lt_setAt
      simp [isStale, h_new, UnitEntry.fresh?, h_memo, h_ranAt, h_mem]
  · rw [decide_eq_false h_mem, isStale_eq_false]
    intro entry h_new
    rw [h_edited.kept unit h_mem] at h_new
    exact h_asked.fresh unit h_listed entry h_new

/-- A listed unit has changed, after collecting it again, if it has come out different or had
    changed before. -/
theorem changedSince_edited {since : Nat} (h_since : since ≤ asked.revision)
    (h_sound : edited.Sound) {unit : Nat} (h_listed : unit ∈ asked.listed) :
    ∃ old new, asked.units[unit]? = some old ∧ edited.askListed.2.units[unit]? = some new ∧
      new.changedSince since =
        (decide (edited.inputs.collected unit ≠ asked.inputs.collected unit)
          || old.changedSince since) := by
  have h_lt := h_asked.sound.listed_lt unit h_listed
  obtain ⟨old, h_old⟩ : ∃ old, asked.units[unit]? = some old :=
    ⟨_, List.getElem?_eq_getElem h_lt⟩
  have h_listed' : unit ∈ edited.listed := by
    rw [h_edited.frame]
    exact h_listed
  have h_stale := isStale_edited h_asked h_edited h_listed
  obtain ⟨value, h_fresh⟩ := Option.ne_none_iff_exists'.mp (h_asked.fresh unit h_listed old h_old)
  obtain ⟨h_value, h_remembered⟩ :=
    UnitEntry.fresh?_eq_some (h_asked.sound.units unit old h_old) h_fresh
  obtain ⟨memo, h_memo, h_memo_value⟩ := Option.map_eq_some_iff.mp h_remembered
  by_cases h_unit : unit ∈ units
  · obtain ⟨source, setAt, h_before, h_after, h_new⟩ := h_edited.set unit h_unit old h_old
    refine ⟨old, _, h_old, units_askAll_collected edited.listed h_sound h_new, ?_⟩
    rw [if_pos ⟨h_listed', by rw [h_stale, decide_eq_true h_unit]⟩]
    -- A different value counts as changed in this revision, which is later than `since`.
    simp only [UnitEntry.recollected, UnitEntry.changedSince, UnitEntry.changedAt, h_memo,
      collected_inputs, h_new, h_old, Option.map_some, Option.getD_some, h_memo_value, h_value]
    by_cases h_same : old.source.collected = source.collected
    · simp [h_same]
    · simp [h_same, Ne.symm h_same]
      omega
  · have h_kept := (h_edited.kept unit h_unit).trans h_old
    refine ⟨old, _, h_old, units_askAll_collected edited.listed h_sound h_kept, ?_⟩
    rw [if_neg (by simp [h_stale, h_unit])]
    simp [collected_inputs, h_kept, h_old]

/-- After collecting again, a valid memo is outdated if anything has come out different. -/
theorem inputsChangedSince_edited {since : Nat} (h_since : since ≤ asked.revision)
    (h_sound : edited.Sound) :
    edited.askListed.2.inputsChangedSince since =
      (decide (edited.inputs.compilation.collected ≠ asked.inputs.compilation.collected)
        || asked.inputsChangedSince since) := by
  have h_listed : edited.listed = asked.listed := by
    rw [h_edited.frame]
  have h_frame : edited.askListed.2.listed = asked.listed ∧
      edited.askListed.2.listedAt = asked.listedAt ∧
      edited.askListed.2.optionsAt = asked.optionsAt := by
    rw [askListed, frame_askAll_collected, h_edited.frame]
    exact ⟨rfl, rfl, rfl⟩
  rw [← collected_listed h_sound, ← collected_listed h_asked.sound, h_listed]
  unfold inputsChangedSince
  rw [h_frame.1, h_frame.2.1, h_frame.2.2]
  have h_units : ∀ unit ∈ asked.listed,
      (edited.askListed.2.units[unit]?.map (·.changedSince since)).getD false =
        (decide (edited.inputs.collected unit ≠ asked.inputs.collected unit)
          || (asked.units[unit]?.map (·.changedSince since)).getD false) := by
    intro unit h_unit
    obtain ⟨old, new, h_old, h_new, h_changed⟩ :=
      changedSince_edited h_asked h_edited h_since h_sound h_unit
    simp [h_old, h_new, h_changed]
  rw [Bool.eq_iff_iff]
  simp only [Bool.or_eq_true, List.any_eq_true, decide_eq_true_eq, ne_eq, List.map_inj_left]
  grind

/-! ## What a generation after edits executes -/

omit h_asked in
theorem executed_edited : edited.executed = asked.executed := by
  rw [h_edited.frame]

theorem executes_askListed_edited (h_sound : edited.Sound) (h_recorded : edited.Recorded)
    (h_units : ∀ unit ∈ units, unit ∈ asked.listed) :
    edited.Executes edited.askListed.2 (onceEach (units.map .collected)) := by
  have h_listed : edited.listed = asked.listed := by
    rw [h_edited.frame]
  have h_cost : edited.recollections edited.listed = onceEach (units.map .collected) := by
    funext query
    cases query with
    | collected unit =>
      simp only [recollections, onceEach, h_listed, List.mem_map, Query.collected.injEq,
        exists_eq_right]
      by_cases h_unit : unit ∈ asked.listed
      · simp [h_unit, isStale_edited h_asked h_edited h_unit]
      · simp [h_unit, mt (h_units unit) h_unit]
    | _ => simp [recollections, onceEach]
  rw [← h_cost]
  exact (executes_askAll_collected edited.listed h_sound h_recorded).2

/-- Edits leave what was last collected alone. -/
theorem lastCollected?_edited {unit : Nat} (h_listed : unit ∈ asked.listed) :
    edited.lastCollected? unit = some (asked.inputs.collected unit) := by
  have h_lt := h_asked.sound.listed_lt unit h_listed
  have h_entry : asked.units[unit]? = some asked.units[unit] := List.getElem?_eq_getElem h_lt
  obtain ⟨value, h_fresh⟩ :=
    Option.ne_none_iff_exists'.mp (h_asked.fresh unit h_listed _ h_entry)
  obtain ⟨h_value, h_remembered⟩ :=
    UnitEntry.fresh?_eq_some (h_asked.sound.units unit _ h_entry) h_fresh
  have h_asked_last : asked.inputs.collected unit = value := by
    rw [collected_inputs, h_entry, h_value]
    rfl
  rw [h_asked_last, ← h_remembered]
  by_cases h_unit : unit ∈ units
  · obtain ⟨source, setAt, -, -, h_new⟩ := h_edited.set unit h_unit _ h_entry
    rw [lastCollected?, h_new]
    rfl
  · rw [lastCollected?, h_edited.kept unit h_unit, h_entry]
    rfl

/-- Edits after which each unit gives what was last collected from it change nothing. -/
theorem collected_of_lastCollected? (h_sound : edited.Sound)
    (h_units : ∀ unit ∈ units, unit ∈ asked.listed)
    (h_same : ∀ unit ∈ units, edited.lastCollected? unit = some (edited.inputs.collected unit)) :
    edited.inputs.compilation.collected = asked.inputs.compilation.collected := by
  have h_listed : edited.listed = asked.listed := by
    rw [h_edited.frame]
  rw [← collected_listed h_sound, ← collected_listed h_asked.sound, h_listed]
  refine List.map_congr_left fun unit h_unit => ?_
  by_cases h_mem : unit ∈ units
  · have h_last := lastCollected?_edited h_asked h_edited (h_units unit h_mem)
    exact Option.some.inj ((h_same unit h_mem).symm.trans h_last)
  · simp [collected_inputs, h_edited.kept unit h_mem]

/-- If nothing has come out different, the generation is still valid. -/
theorem askGenerated_of_same (h_sound : edited.Sound)
    (h_same : edited.inputs.compilation.collected = asked.inputs.compilation.collected) :
    edited.askGenerated.2 = edited.askListed.2 := by
  obtain ⟨memo, h_memo, h_inputs⟩ := h_asked.generated
  refine snd_askListing_of_valid (valid?_isSome.mpr ⟨memo, ?_, ?_⟩)
  · rw [askListed, frame_askAll_collected, h_edited.frame]
    exact h_memo
  · have h_ranAt := (h_asked.sound.generated memo h_memo).ranAt_le
    rw [inputsChangedSince_edited h_asked h_edited h_ranAt h_sound, h_inputs]
    simp [h_same]

/-- If something has come out different, the graph and the generation are outdated. -/
theorem not_valid?_of_changed {α : Type} {memo? : Option (Memo α)} (h_sound : edited.Sound)
    (h_memo : ∀ memo, memo? = some memo → memo.ranAt ≤ asked.revision)
    (h_changed : edited.inputs.compilation.collected ≠ asked.inputs.compilation.collected) :
    ¬ (edited.askListed.2.valid? memo?).isSome := by
  rw [valid?_isSome]
  rintro ⟨memo, h_some, h_inputs⟩
  rw [inputsChangedSince_edited h_asked h_edited (h_memo memo h_some) h_sound] at h_inputs
  simp [h_changed] at h_inputs

/-- What was asked for before is not asked for again, so the cost of a generation after edits is
    that of what is new. -/
theorem executes_askGenerated_edited (h_sound : edited.Sound) (h_recorded : edited.Recorded)
    (h_units : ∀ unit ∈ units, unit ∈ asked.listed) :
    edited.Executes edited.askGenerated.2 (editCost asked edited units) := by
  have h_collecting := executes_askListed_edited h_asked h_edited h_sound h_recorded h_units
  have h_options : edited.options = asked.options := by
    rw [h_edited.frame]
  by_cases h_same : edited.inputs.compilation.collected = asked.inputs.compilation.collected
  · rw [askGenerated_of_same h_asked h_edited h_sound h_same,
      editCost_of_same units h_asked.isLogged h_options h_same]
    exact h_collecting
  · obtain ⟨h_found, h_remembers, h_fresh⟩ := askListed_spec h_sound
    have h_listed := recorded_askListed h_sound h_recorded
    have h_frame : edited.askListed.2.options = edited.options ∧
        edited.askListed.2.graph = asked.graph ∧ edited.askListed.2.generated = asked.generated ∧
        (asked.SupportFresh → edited.askListed.2.SupportFresh) := by
      rw [askListed, frame_askAll_collected, h_edited.frame]
      exact ⟨rfl, rfl, rfl, id⟩
    obtain ⟨-, -, -, support, h_free, -, h_computing⟩ := executes_computeGenerated
      h_remembers.sound h_listed h_fresh (h_found.trans (by rw [h_remembers.inputs]))
    -- The generation is outdated, and so is the graph.
    have h_generated := not_valid?_of_changed h_asked h_edited h_sound
      (fun memo h_memo => (h_asked.sound.generated memo h_memo).ranAt_le) h_same
    have h_graph := not_valid?_of_changed h_asked h_edited h_sound
      (fun memo h_memo => (h_asked.sound.graph memo h_memo).ranAt_le) h_same
    rw [askGenerated, snd_askListing_of_outdated (by rwa [h_frame.2.2.1]),
      editCost_of_changed units h_same]
    -- Collecting logs neither outcomes nor units.
    have h_log : ∀ query, (∀ unit, query ≠ .collected unit) →
        (query ∈ edited.askListed.2.executed ↔ query ∈ asked.executed) := by
      intro query h_query
      rw [h_collecting.mem_iff, executed_edited h_edited]
      simp [onceEach, fun unit => Ne.symm (h_query unit)]
    rw [h_frame.2.1, if_neg h_graph, h_free (h_frame.2.2.2 h_asked.supportFresh), h_frame.1,
      h_found, add_zero,
      firstTimes_congr (List.forall_mem_map.mpr fun candidate _ =>
        h_log (.descriptor candidate) fun _ => nofun),
      firstTimes_congr (List.forall_mem_map.mpr fun node _ =>
        h_log (.emitted node edited.options) fun _ => nofun)] at h_computing
    rw [h_found]
    exact (h_collecting.trans h_computing).trans (.of_cons rfl)

end Editing

end Store
end FieldDelta.Query
