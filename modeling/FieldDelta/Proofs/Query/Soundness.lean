import FieldDelta.Proofs.Query.Validity

/-! # Everything that the store remembers is sound

`Store.Sound` is the invariant of the engine.  The first half of the module shows that changing an
input keeps it, the second half that asking a query keeps it and answers what the inputs give.
-/

namespace FieldDelta.Query

namespace Store

/-- All that the store remembers is sound. -/
structure Sound (store : Store) : Prop where
  listed_lt : ∀ unit ∈ store.listed, unit < store.units.length
  units : ∀ (unit : Nat) (entry : UnitEntry), store.units[unit]? = some entry →
    entry.Sound store.revision
  outcomes : ∀ pair ∈ store.outcomes, pair.2 = describe pair.1
  emitted : ∀ pair ∈ store.emitted, pair.2 = DeltaUnit.emit pair.1.1 pair.1.2
  support_ranAt_le : ∀ memo, store.support = some memo → memo.ranAt ≤ store.revision
  support : ∀ memo, store.support = some memo → store.optionsAt ≤ memo.ranAt →
    memo.value = store.options.supportUnit?
  graph : ∀ memo, store.graph = some memo → memo.Sound store graphOf
  generated : ∀ memo, store.generated = some memo → memo.Sound store generationOf

/-- A store that remembers nothing is sound. -/
theorem Sound.initial (options : Options) : Sound { options := options } := by
  constructor <;> simp

/-! ## Changing inputs -/

theorem follows_addUnit {store : Store} (h_sound : store.Sound) (source : Source) :
    store.Follows (store.addUnit source).2 where
  revision_le := Nat.le_refl _
  listed := rfl
  listedAt := rfl
  options := rfl
  optionsAt := rfl
  units since _ unit h_unit := by
    have h_lt := h_sound.listed_lt unit h_unit
    refine ⟨store.units[unit], store.units[unit], by simp [h_lt], ?_, .refl _ _⟩
    simp [addUnit, List.getElem?_append_left h_lt, h_lt]

theorem Sound.addUnit {store : Store} (h_sound : store.Sound) (source : Source) :
    (store.addUnit source).2.Sound where
  listed_lt unit h_unit := by
    have h_lt := h_sound.listed_lt unit h_unit
    simp only [Store.addUnit, List.length_append, List.length_singleton]
    omega
  units unit entry h_entry := by
    simp only [Store.addUnit, List.getElem?_append] at h_entry
    split at h_entry
    next h_lt => exact h_sound.units unit entry h_entry
    next h_lt =>
      -- The new unit was set now and nothing was collected from it.
      obtain rfl : _ = entry := List.mem_singleton.mp (List.mem_of_getElem? h_entry) |>.symm
      exact ⟨Nat.le_refl _, fun _ h_memo => (nomatch h_memo), fun _ h_memo => (nomatch h_memo)⟩
  outcomes := h_sound.outcomes
  emitted := h_sound.emitted
  support_ranAt_le := h_sound.support_ranAt_le
  support := h_sound.support
  graph memo h_memo := (h_sound.graph memo h_memo).follows (follows_addUnit h_sound source)
  generated memo h_memo := (h_sound.generated memo h_memo).follows (follows_addUnit h_sound source)

theorem follows_setSource {store : Store} (h_sound : store.Sound) (unit : Nat)
    (change : Source → Source) : store.Follows (store.setSource unit change) where
  revision_le := Nat.le_succ _
  listed := rfl
  listedAt := rfl
  options := rfl
  optionsAt := rfl
  units since h_since other h_other := by
    have h_lt := h_sound.listed_lt other h_other
    have h_old : store.units[other]? = some store.units[other] := List.getElem?_eq_getElem h_lt
    by_cases h_unit : unit = other
    · -- The unit that is set; the others stay as they are.
      have h_before := Nat.lt_succ_of_le h_since
      refine ⟨_, _, h_old, ?_, .set h_before _ (change store.units[other].source)⟩
      simp [setSource, h_unit, h_old]
    · refine ⟨_, _, h_old, ?_, .refl _ _⟩
      simp [setSource, h_unit, h_old]

theorem Sound.setSource {store : Store} (h_sound : store.Sound) (unit : Nat)
    (change : Source → Source) : (store.setSource unit change).Sound where
  listed_lt other h_other := by
    simpa [Store.setSource] using h_sound.listed_lt other h_other
  units other entry h_entry := by
    simp only [Store.setSource, List.getElem?_modify, Option.map_eq_map, Option.map_eq_some_iff]
      at h_entry
    obtain ⟨old, h_old, h_new⟩ := h_entry
    have h_entry := h_sound.units other old h_old
    split at h_new
    next => exact h_new ▸ h_entry.set (change old.source)
    next => exact h_new ▸ h_entry.mono (Nat.le_succ _)
  outcomes := h_sound.outcomes
  emitted := h_sound.emitted
  support_ranAt_le memo h_memo := Nat.le_succ_of_le (h_sound.support_ranAt_le memo h_memo)
  support := h_sound.support
  graph memo h_memo := (h_sound.graph memo h_memo).follows (follows_setSource h_sound unit change)
  generated memo h_memo :=
    (h_sound.generated memo h_memo).follows (follows_setSource h_sound unit change)

theorem Sound.setListed {store : Store} (h_sound : store.Sound) (units : List Nat) :
    (store.setListed units).Sound where
  listed_lt unit h_unit := by
    simp only [Store.setListed, List.mem_filter, decide_eq_true_eq] at h_unit
    exact h_unit.2
  units unit entry h_entry := (h_sound.units unit entry h_entry).mono (Nat.le_succ _)
  outcomes := h_sound.outcomes
  emitted := h_sound.emitted
  support_ranAt_le memo h_memo := Nat.le_succ_of_le (h_sound.support_ranAt_le memo h_memo)
  support := h_sound.support
  graph memo h_memo := (h_sound.graph memo h_memo).setListed units
  generated memo h_memo := (h_sound.generated memo h_memo).setListed units

theorem Sound.setOptions {store : Store} (h_sound : store.Sound) (options : Options) :
    (store.setOptions options).Sound where
  listed_lt := h_sound.listed_lt
  units unit entry h_entry := (h_sound.units unit entry h_entry).mono (Nat.le_succ _)
  outcomes := h_sound.outcomes
  emitted := h_sound.emitted
  support_ranAt_le memo h_memo := Nat.le_succ_of_le (h_sound.support_ranAt_le memo h_memo)
  support memo h_memo h_optionsAt := by
    have h_ranAt := Nat.lt_succ_of_le (h_sound.support_ranAt_le memo h_memo)
    exact absurd h_optionsAt (Nat.not_le_of_lt h_ranAt)
  graph memo h_memo := (h_sound.graph memo h_memo).setOptions options
  generated memo h_memo := (h_sound.generated memo h_memo).setOptions options

end Store
end FieldDelta.Query
