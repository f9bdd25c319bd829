import FieldDelta.Delta.Comparison
import FieldDelta.Proofs.Delta.Paths

/-! # The views of a delta, property by property

A view of a delta is empty if both sides are missing.  Otherwise it puts together what the
properties contribute.  A nested property contributes the same view of the nested delta, which is
smaller, so what is preserved from the nested deltas to the whole holds of every delta:
`ModelDelta.nestedInduction`.
-/

namespace FieldDelta
namespace ModelDelta

variable {M : Type}

/-- A property of deltas holds of all if it holds where both sides are missing and passes from the
    nested deltas to the whole. -/
@[elab_as_elim]
theorem nestedInduction {motive : ModelDelta M → Prop}
    (absent : ∀ delta, delta.isAbsent = true → motive delta)
    (present : ∀ delta, ¬ delta.isAbsent = true →
      (∀ property wrapper model, motive (delta.nestedDelta property wrapper model)) →
        motive delta) (delta : ModelDelta M) : motive delta := by
  -- The measure is the size of both sides: something present is larger than all it holds.
  by_cases h_absent : delta.isAbsent = true
  · exact absent delta h_absent
  · refine present delta h_absent fun property wrapper model => ?_
    exact nestedInduction absent present (delta.nestedDelta property wrapper model)
termination_by delta.size
decreasing_by exact size_nestedDelta_lt h_absent property wrapper model

theorem isAbsent_iff {delta : ModelDelta M} :
    delta.isAbsent = true ↔ delta.previous = none ∧ delta.current = none := by
  simp [isAbsent]

variable [Catalogue M]

theorem nodup_names [WellNamed M] (delta : ModelDelta M) :
    (delta.properties.map (·.name)).Nodup :=
  WellNamed.names_nodup delta.model

variable [DecidableEq M]

/-! ## What a property contributes -/

/-- Whether a property differs, at any depth. -/
def differs (delta : ModelDelta M) (property : ModelProperty M) : Bool :=
  match property.nested with
  | none => (delta.propertyDelta property).hasChanged
  | some (wrapper, model) => (delta.nestedDelta property wrapper model).hasAnyDeltas

/-- What a property contributes to all differing leaves. -/
def leafInfos (delta : ModelDelta M) (property : ModelProperty M) : List (DeltaInfo M) :=
  match property.nested with
  | none => delta.changedInfo property
  | some (wrapper, model) =>
    (delta.nestedDelta property wrapper model).allDeltas.map (·.withPrefix property.name)

/-- What a property contributes to the changes. -/
def leafChanges (delta : ModelDelta M) (property : ModelProperty M) : List (PropertyChange M) :=
  match property.nested with
  | none => delta.changedProperty property
  | some (wrapper, model) =>
    (delta.nestedDelta property wrapper model).deltas.map (·.withPrefix property.name)

/-- What a property contributes to the differing properties of the model itself. -/
def rootInfos (delta : ModelDelta M) (property : ModelProperty M) : List (DeltaInfo M) :=
  match property.nested with
  | none => delta.changedInfo property
  | some (wrapper, model) =>
    if (delta.nestedDelta property wrapper model).hasAnyDeltas then
      [delta.nestedInfo property wrapper model]
    else []

section Contributions

variable (delta : ModelDelta M) {property : ModelProperty M} {wrapper : Wrapper} {model : M}

theorem differs_plain (h_plain : property.nested = none) :
    delta.differs property = (delta.propertyDelta property).hasChanged := by
  rw [differs, h_plain]

theorem differs_nested (h_nested : property.nested = some (wrapper, model)) :
    delta.differs property = (delta.nestedDelta property wrapper model).hasAnyDeltas := by
  rw [differs, h_nested]

theorem leafInfos_plain (h_plain : property.nested = none) :
    delta.leafInfos property = delta.changedInfo property := by
  rw [leafInfos, h_plain]

theorem leafInfos_nested (h_nested : property.nested = some (wrapper, model)) :
    delta.leafInfos property =
      (delta.nestedDelta property wrapper model).allDeltas.map (·.withPrefix property.name) := by
  rw [leafInfos, h_nested]

theorem leafChanges_plain (h_plain : property.nested = none) :
    delta.leafChanges property = delta.changedProperty property := by
  rw [leafChanges, h_plain]

theorem leafChanges_nested (h_nested : property.nested = some (wrapper, model)) :
    delta.leafChanges property =
      (delta.nestedDelta property wrapper model).deltas.map (·.withPrefix property.name) := by
  rw [leafChanges, h_nested]

theorem rootInfos_plain (h_plain : property.nested = none) :
    delta.rootInfos property = delta.changedInfo property := by
  rw [rootInfos, h_plain]

theorem rootInfos_nested (h_nested : property.nested = some (wrapper, model)) :
    delta.rootInfos property =
      if (delta.nestedDelta property wrapper model).hasAnyDeltas then
        [delta.nestedInfo property wrapper model]
      else [] := by
  rw [rootInfos, h_nested]

theorem mem_changedInfo {info : DeltaInfo M} :
    info ∈ delta.changedInfo property ↔ (delta.propertyDelta property).hasChanged = true ∧
      info = (delta.propertyDelta property).toDeltaInfo property.name := by
  unfold changedInfo
  split <;> simp_all

end Contributions

/-- What a property contributes is listed under its name. -/
theorem exists_segments_of_mem_leafInfos [WellNamed M] {delta : ModelDelta M}
    {property : ModelProperty M} (h_property : property ∈ delta.properties) {info : DeltaInfo M}
    (h_info : info ∈ delta.leafInfos property) :
    ∃ rest, pathSegments info.path = property.name :: rest := by
  have h_plain_name := WellNamed.name_plain delta.model property h_property
  cases h_nested : property.nested with
  | none =>
    rw [leafInfos_plain delta h_nested] at h_info
    obtain ⟨-, rfl⟩ := delta.mem_changedInfo.mp h_info
    exact ⟨[], pathSegments_of_isPlainName h_plain_name⟩
  | some link =>
    obtain ⟨wrapper, model⟩ := link
    rw [leafInfos_nested delta h_nested] at h_info
    obtain ⟨inner, -, rfl⟩ := List.mem_map.mp h_info
    exact ⟨_, pathSegments_extendPath h_plain_name inner.path⟩

variable {delta : ModelDelta M}

/-! ## Views where both sides are missing -/

theorem hasAnyDeltas_of_absent (h_absent : delta.isAbsent = true) : delta.hasAnyDeltas = false := by
  rw [hasAnyDeltas, dif_pos h_absent]

theorem allDeltas_of_absent (h_absent : delta.isAbsent = true) : delta.allDeltas = [] := by
  rw [allDeltas, dif_pos h_absent]

theorem deltas_of_absent (h_absent : delta.isAbsent = true) : delta.deltas = [] := by
  rw [deltas, dif_pos h_absent]

theorem rootDeltas_of_absent (h_absent : delta.isAbsent = true) : delta.rootDeltas = [] := by
  rw [rootDeltas, if_pos h_absent]

/-! ## Views where a side is present -/

theorem hasAnyDeltas_of_present (h_present : ¬ delta.isAbsent = true) :
    delta.hasAnyDeltas = delta.properties.any delta.differs := by
  rw [hasAnyDeltas, dif_neg h_present]
  rfl

theorem allDeltas_of_present (h_present : ¬ delta.isAbsent = true) :
    delta.allDeltas = delta.properties.flatMap delta.leafInfos := by
  rw [allDeltas, dif_neg h_present]
  rfl

theorem deltas_of_present (h_present : ¬ delta.isAbsent = true) :
    delta.deltas = delta.properties.flatMap delta.leafChanges := by
  rw [deltas, dif_neg h_present]
  rfl

theorem rootDeltas_of_present (h_present : ¬ delta.isAbsent = true) :
    delta.rootDeltas = delta.properties.flatMap delta.rootInfos := by
  rw [rootDeltas, if_neg h_present]
  rfl

end ModelDelta
end FieldDelta
