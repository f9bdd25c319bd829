import FieldDelta.Query.Machine
import Mathlib.Data.List.Basic

/-! # When a memo is valid

The store compares revisions to find out whether a memo may be answered again.  This module says
what that comparison stands for, as an invariant of the store:

* `UnitEntry.Sound` — what was collected from a unit since it was set is what it holds;
* `Memo.Sound` — a memo none of whose inputs has changed since it ran has the value that the
  remembered inputs give;
* `Store.Sound` — all that the store remembers is sound.

The second one speaks of the collected values that are *remembered*, not of those that the sources
have now.  That is what lets a memo survive the edits of a unit, and the early cutoff when
collecting it again gives an equal value.
-/

namespace FieldDelta.Query

/-! ## Units -/

namespace UnitEntry

/-- What was last collected from the unit. -/
def remembered? (entry : UnitEntry) : Option Collected :=
  entry.memo.map (·.value)

/-- The unit was set and collected by `revision`, and what was collected since it was set is what
    it holds. -/
structure Sound (entry : UnitEntry) (revision : Nat) : Prop where
  setAt_le : entry.setAt ≤ revision
  ranAt_le : ∀ memo, entry.memo = some memo → memo.ranAt ≤ revision
  value_eq : ∀ memo, entry.memo = some memo → entry.setAt ≤ memo.ranAt →
    memo.value = entry.source.collected

/-- A unit that is not fresh was set after `revision`. -/
def SetSince (entry : UnitEntry) (revision : Nat) : Prop :=
  entry.fresh? = none → revision < entry.setAt

theorem fresh?_eq_some {entry : UnitEntry} {revision : Nat} {value : Collected}
    (h_sound : entry.Sound revision) (h_fresh : entry.fresh? = some value) :
    value = entry.source.collected ∧ entry.remembered? = some value := by
  unfold fresh? at h_fresh
  cases h_memo : entry.memo with
  | none => simp [h_memo] at h_fresh
  | some memo =>
    simp only [h_memo] at h_fresh
    split at h_fresh
    next h_set => cases h_fresh
    next h_set =>
      cases h_fresh
      exact ⟨h_sound.value_eq memo h_memo (by omega), by simp [remembered?, h_memo]⟩

theorem fresh?_recollected {entry : UnitEntry} {revision : Nat} (h_set : entry.setAt ≤ revision) :
    (entry.recollected revision).fresh? = some entry.source.collected := by
  have h_not : ¬ revision < entry.setAt := by omega
  simp [recollected, fresh?, h_not]

theorem Sound.mono {entry : UnitEntry} {revision later : Nat} (h_sound : entry.Sound revision)
    (h_later : revision ≤ later) : entry.Sound later where
  setAt_le := Nat.le_trans h_sound.setAt_le h_later
  ranAt_le memo h_memo := Nat.le_trans (h_sound.ranAt_le memo h_memo) h_later
  value_eq := h_sound.value_eq

/-- A unit that is set now was last collected before. -/
theorem Sound.set {entry : UnitEntry} {revision : Nat} (h_sound : entry.Sound revision)
    (source : Source) :
    UnitEntry.Sound { entry with source := source, setAt := revision + 1 } (revision + 1) where
  setAt_le := Nat.le_refl _
  ranAt_le memo h_memo := Nat.le_succ_of_le (h_sound.ranAt_le memo h_memo)
  value_eq memo h_memo h_set := by
    -- The memo ran before this revision, so it is out of date.
    have h_ran := h_sound.ranAt_le memo h_memo
    simp only at h_set
    omega

theorem Sound.recollected {entry : UnitEntry} {revision : Nat} (h_sound : entry.Sound revision) :
    (entry.recollected revision).Sound revision where
  setAt_le := h_sound.setAt_le
  ranAt_le memo h_memo := by
    simp only [UnitEntry.recollected, Option.some.injEq] at h_memo
    exact h_memo ▸ Nat.le_refl _
  value_eq memo h_memo _ := by
    simp only [UnitEntry.recollected, Option.some.injEq] at h_memo
    exact h_memo ▸ rfl

/-- Early cutoff: collecting a unit anew counts as no change only if it gives what was remembered
    and that had not changed before. -/
theorem changedSince_recollected {entry : UnitEntry} {since revision : Nat}
    (h_since : since < revision)
    (h_same : (entry.recollected revision).changedSince since = false) :
    entry.changedSince since = false ∧
      (entry.recollected revision).remembered? = entry.remembered? := by
  cases h_memo : entry.memo with
  | none =>
    -- What was never collected before counts as changed now.
    simp only [recollected, changedSince, changedAt, h_memo, decide_eq_false_iff_not] at h_same
    exact absurd h_since h_same
  | some memo =>
    by_cases h_value : memo.value = entry.source.collected
    · simp only [recollected, changedSince, changedAt, h_memo, h_value, if_true] at h_same
      exact ⟨by simpa [changedSince, h_memo] using h_same,
        by simp [recollected, remembered?, h_memo, h_value]⟩
    · simp only [recollected, changedSince, changedAt, h_memo, h_value, if_false,
        decide_eq_false_iff_not] at h_same
      exact absurd h_since h_same

/-- The unit `after` has become of `before`, as far as a memo that ran at `since` can tell: a unit
    that such a memo must still look at stays one, and a unit that counts as unchanged has not
    changed. -/
structure Follows (since : Nat) (before after : UnitEntry) : Prop where
  setSince : before.SetSince since → after.SetSince since
  unchanged : before.SetSince since → after.changedSince since = false →
    before.changedSince since = false ∧ after.remembered? = before.remembered?

theorem Follows.refl (since : Nat) (entry : UnitEntry) : Follows since entry entry :=
  ⟨id, fun _ h_same => ⟨h_same, rfl⟩⟩

/-- Setting a unit leaves what is remembered of it. -/
theorem Follows.set {since revision : Nat} (h_since : since < revision) (entry : UnitEntry)
    (source : Source) :
    Follows since entry { entry with source := source, setAt := revision } :=
  ⟨fun _ _ => h_since, fun _ h_same => ⟨h_same, rfl⟩⟩

/-- A unit is collected anew only if it was set since, so no memo of the same revision has seen
    it. -/
theorem Follows.recollected {since revision : Nat} {entry : UnitEntry}
    (h_set : entry.setAt ≤ revision) (h_stale : entry.fresh? = none) :
    Follows since entry (entry.recollected revision) where
  setSince _ h_none := by
    rw [fresh?_recollected h_set] at h_none
    cases h_none
  unchanged h_before h_same := by
    -- The memo is older than the edit, hence older than this revision.
    have h_since : since < entry.setAt := h_before h_stale
    exact changedSince_recollected (by omega) h_same

end UnitEntry

/-! ## The inputs of a memo -/

namespace Store

/-- What is remembered of the listed units. -/
def remembered (store : Store) : List Collected :=
  store.listed.filterMap fun unit => store.units[unit]?.bind (·.remembered?)

/-- What is collected from a unit is up to date. -/
def Fresh (store : Store) (unit : Nat) : Prop :=
  ∀ entry, store.units[unit]? = some entry → entry.fresh? ≠ none

/-- What is collected from the listed units is up to date. -/
def ListedFresh (store : Store) : Prop :=
  ∀ unit ∈ store.listed, store.Fresh unit

theorem inputsChangedSince_eq_false {store : Store} {since : Nat} :
    store.inputsChangedSince since = false ↔
      store.listedAt ≤ since ∧ store.optionsAt ≤ since ∧
        ∀ unit ∈ store.listed, ∀ entry, store.units[unit]? = some entry →
          entry.changedSince since = false := by
  simp only [inputsChangedSince, Bool.or_eq_false_iff, decide_eq_false_iff_not, Nat.not_lt,
    List.any_eq_false, and_assoc]
  refine and_congr_right fun _ => and_congr_right fun _ => forall₂_congr fun unit _ => ?_
  cases store.units[unit]? <;> simp

/-- The store `after` has become of `before` by steps that leave the list and the options. -/
structure Follows (before after : Store) : Prop where
  revision_le : before.revision ≤ after.revision
  listed : after.listed = before.listed
  listedAt : after.listedAt = before.listedAt
  options : after.options = before.options
  optionsAt : after.optionsAt = before.optionsAt
  units : ∀ since ≤ before.revision, ∀ unit ∈ before.listed, ∃ old new,
    before.units[unit]? = some old ∧ after.units[unit]? = some new ∧ old.Follows since new

end Store

/-- The memo ran by now.  A listed unit that is not fresh was set after it ran, and if none of its
    inputs has changed since, its value is what `compute` makes of them. -/
structure Memo.Sound {α : Type} (store : Store) (compute : List Collected → Options → α)
    (memo : Memo α) : Prop where
  ranAt_le : memo.ranAt ≤ store.revision
  setSince : store.listedAt ≤ memo.ranAt → ∀ unit ∈ store.listed, ∀ entry,
    store.units[unit]? = some entry → entry.SetSince memo.ranAt
  value_eq : store.inputsChangedSince memo.ranAt = false →
    memo.value = compute store.remembered store.options

namespace Memo.Sound

variable {α : Type} {compute : List Collected → Options → α} {memo : Memo α}

/-- If no input of the memo has changed up to `after`, then none had up to `before`, and what is
    remembered of the listed units is the same. -/
theorem unchangedSince {before after : Store} (h_sound : memo.Sound before compute)
    (h_follows : before.Follows after) (h_inputs : after.inputsChangedSince memo.ranAt = false) :
    before.inputsChangedSince memo.ranAt = false ∧ after.remembered = before.remembered := by
  obtain ⟨h_listedAt, h_optionsAt, h_units⟩ := Store.inputsChangedSince_eq_false.mp h_inputs
  rw [h_follows.listedAt] at h_listedAt
  rw [h_follows.optionsAt] at h_optionsAt
  rw [h_follows.listed] at h_units
  -- A unit that counts as unchanged did so before, with the same value remembered.
  have h_unchanged : ∀ unit ∈ before.listed, ∀ old, before.units[unit]? = some old →
      old.changedSince memo.ranAt = false ∧
        after.units[unit]?.bind (·.remembered?) = before.units[unit]?.bind (·.remembered?) := by
    intro unit h_unit old h_old
    obtain ⟨old', new, h_old', h_new, h_entry⟩ :=
      h_follows.units _ h_sound.ranAt_le unit h_unit
    obtain rfl : old' = old := Option.some.inj (h_old'.symm.trans h_old)
    obtain ⟨h_same, h_remembered⟩ := h_entry.unchanged
      (h_sound.setSince h_listedAt unit h_unit old' h_old) (h_units unit h_unit new h_new)
    exact ⟨h_same, by simp [h_old, h_new, h_remembered]⟩
  refine ⟨Store.inputsChangedSince_eq_false.mpr ⟨h_listedAt, h_optionsAt,
    fun unit h_unit old h_old => (h_unchanged unit h_unit old h_old).1⟩, ?_⟩
  unfold Store.remembered
  rw [h_follows.listed]
  refine List.filterMap_congr fun unit h_unit => ?_
  obtain ⟨old, new, h_old, -⟩ := h_follows.units _ h_sound.ranAt_le unit h_unit
  exact (h_unchanged unit h_unit old h_old).2

theorem follows {before after : Store} (h_sound : memo.Sound before compute)
    (h_follows : before.Follows after) : memo.Sound after compute where
  ranAt_le := Nat.le_trans h_sound.ranAt_le h_follows.revision_le
  setSince h_listedAt unit h_unit entry h_entry := by
    rw [h_follows.listed] at h_unit
    rw [h_follows.listedAt] at h_listedAt
    obtain ⟨old, new, h_old, h_new, h_units⟩ := h_follows.units _ h_sound.ranAt_le unit h_unit
    have h_same : new = entry := Option.some.inj (h_new.symm.trans h_entry)
    exact h_same ▸ h_units.setSince (h_sound.setSince h_listedAt unit h_unit old h_old)
  value_eq h_inputs := by
    obtain ⟨h_before, h_remembered⟩ := h_sound.unchangedSince h_follows h_inputs
    rw [h_sound.value_eq h_before, h_remembered, h_follows.options]

/-- Setting the list outdates the memo. -/
theorem setListed {store : Store} (h_sound : memo.Sound store compute) (units : List Nat) :
    memo.Sound (store.setListed units) compute := by
  have h_ranAt : memo.ranAt < store.revision + 1 := Nat.lt_succ_of_le h_sound.ranAt_le
  refine ⟨Nat.le_of_lt h_ranAt, fun h_listedAt => ?_, fun h_inputs => ?_⟩
  · exact absurd h_listedAt (Nat.not_le_of_lt h_ranAt)
  · have h_listedAt := (Store.inputsChangedSince_eq_false.mp h_inputs).1
    exact absurd h_listedAt (Nat.not_le_of_lt h_ranAt)

/-- Setting the options outdates the memo. -/
theorem setOptions {store : Store} (h_sound : memo.Sound store compute) (options : Options) :
    memo.Sound (store.setOptions options) compute := by
  have h_ranAt : memo.ranAt < store.revision + 1 := Nat.lt_succ_of_le h_sound.ranAt_le
  refine ⟨Nat.le_of_lt h_ranAt, h_sound.setSince, fun h_inputs => ?_⟩
  have h_optionsAt := (Store.inputsChangedSince_eq_false.mp h_inputs).2.1
  exact absurd h_optionsAt (Nat.not_le_of_lt h_ranAt)

end Memo.Sound
end FieldDelta.Query
