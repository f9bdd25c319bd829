import FieldDelta.Delta.Property

/-! # Deltas of models

A model delta compares two values of one model, of which either may be missing.  A plain
property is compared by its values, the initial value of its type standing in for a missing
side.  A nested property is compared by the delta of the models behind its wrappers.  If both
sides are missing there is nothing to compare: no property is looked at, which is what ends the
comparison of models that hold themselves.

* `hasAnyDeltas` — whether any property differs, at any depth;
* `allDeltas` — every property at the leaves that differs, with its type;
* `deltas` — the same as changes, without types;
* `rootDeltas` — every property of the model itself that differs; a nested one is one entry.

All listings are in declaration order.
-/

namespace FieldDelta

/-- The comparison of two values of a model. -/
structure ModelDelta (M : Type) where
  model : M
  previous : Option (Value M)
  current : Option (Value M)
deriving Repr

/-- What a delta offers to readers that do not know its model. -/
class DeltaTracker (D : Type) (Entry : outParam Type) where
  hasAnyDeltas : D → Bool
  allDeltas : D → List Entry

namespace ModelDelta

variable {M : Type}

/-- Whether both sides are missing. -/
def isAbsent (delta : ModelDelta M) : Bool :=
  delta.previous.isNone && delta.current.isNone

/-! ## Properties -/

/-- The model value that one side has behind the wrapper of a nested property. -/
def projectSide (property : ModelProperty M) (wrapper : Wrapper) (side : Option (Value M)) :
    Option (Value M) :=
  side.bind fun value => (value.field? property.index).bind wrapper.project

def nestedDelta (delta : ModelDelta M) (property : ModelProperty M) (wrapper : Wrapper)
    (model : M) : ModelDelta M where
  model := model
  previous := projectSide property wrapper delta.previous
  current := projectSide property wrapper delta.current

/-- The size of a side; a missing one has none. -/
noncomputable def sideSize : Option (Value M) → Nat
  | none => 0
  | some value => sizeOf value

/-- The size of both sides together. -/
noncomputable def size (delta : ModelDelta M) : Nat :=
  sideSize delta.previous + sideSize delta.current

theorem sideSize_projectSide_lt (property : ModelProperty M) (wrapper : Wrapper)
    (value : Value M) : sideSize (projectSide property wrapper (some value)) < sizeOf value := by
  have positive : 0 < sizeOf value := by cases value <;> simp <;> omega
  simp only [projectSide, Option.bind_some]
  cases h_field : value.field? property.index with
  | none => simpa [sideSize] using positive
  | some field =>
    have smaller := Value.sizeOf_field?_lt h_field
    simp only [Option.bind_some]
    cases h_inner : wrapper.project field with
    | none => simpa [sideSize] using positive
    | some inner =>
      have bounded := Wrapper.sizeOf_project_le h_inner
      simp only [sideSize]
      omega

/-- Nested deltas are smaller, unless there is nothing to compare. -/
theorem size_nestedDelta_lt {delta : ModelDelta M} (h_present : ¬ delta.isAbsent = true)
    (property : ModelProperty M) (wrapper : Wrapper) (model : M) :
    (delta.nestedDelta property wrapper model).size < delta.size := by
  obtain ⟨key, previous, current⟩ := delta
  cases previous with
  | none =>
    cases current with
    | none => simp [isAbsent] at h_present
    | some value =>
      have smaller := sideSize_projectSide_lt property wrapper value
      simp only [size, nestedDelta]
      simpa [projectSide, sideSize] using smaller
  | some value =>
    have smaller := sideSize_projectSide_lt property wrapper value
    cases current with
    | none =>
      simp only [size, nestedDelta]
      simpa [projectSide, sideSize] using smaller
    | some other =>
      have smaller' := sideSize_projectSide_lt property wrapper other
      simp only [size, nestedDelta, sideSize] at *
      omega

section Catalogued

variable [Catalogue M]

def properties (delta : ModelDelta M) : List (ModelProperty M) :=
  (Catalogue.schema delta.model).properties

def sideValue (property : ModelProperty M) (side : Option (Value M)) : Value M :=
  (side.bind fun value => value.field? property.index).getD property.type.initial

variable [DecidableEq M]

def propertyDelta (delta : ModelDelta M) (property : ModelProperty M) : PropertyDelta M :=
  .between property.type (sideValue property delta.previous) (sideValue property delta.current)

/-! ## Views -/

/-- Whether any property differs, at any depth. -/
def hasAnyDeltas (delta : ModelDelta M) : Bool :=
  if _ : delta.isAbsent then false
  else delta.properties.any fun property =>
    match property.nested with
    | none => (delta.propertyDelta property).hasChanged
    | some (wrapper, model) => (delta.nestedDelta property wrapper model).hasAnyDeltas
termination_by delta.size
decreasing_by exact size_nestedDelta_lt (by assumption) property wrapper model

/-- The entry of a property that is compared by its values, if it has changed. -/
def changedInfo (delta : ModelDelta M) (property : ModelProperty M) : List (DeltaInfo M) :=
  if (delta.propertyDelta property).hasChanged then
    [(delta.propertyDelta property).toDeltaInfo property.name]
  else []

/-- The change of a property that is compared by its values, if it has changed. -/
def changedProperty (delta : ModelDelta M) (property : ModelProperty M) :
    List (PropertyChange M) :=
  if (delta.propertyDelta property).hasChanged then
    [(delta.propertyDelta property).toChange property.name]
  else []

/-- Every leaf property that differs, with nested paths in full. -/
def allDeltas (delta : ModelDelta M) : List (DeltaInfo M) :=
  if _ : delta.isAbsent then []
  else delta.properties.flatMap fun property =>
    match property.nested with
    | none => delta.changedInfo property
    | some (wrapper, model) =>
      (delta.nestedDelta property wrapper model).allDeltas.map (·.withPrefix property.name)
termination_by delta.size
decreasing_by exact size_nestedDelta_lt (by assumption) property wrapper model

/-- Every leaf property that differs, as a change. -/
def deltas (delta : ModelDelta M) : List (PropertyChange M) :=
  if _ : delta.isAbsent then []
  else delta.properties.flatMap fun property =>
    match property.nested with
    | none => delta.changedProperty property
    | some (wrapper, model) =>
      (delta.nestedDelta property wrapper model).deltas.map (·.withPrefix property.name)
termination_by delta.size
decreasing_by exact size_nestedDelta_lt (by assumption) property wrapper model

/-- The single entry of a nested property: the models of both sides, where they are present. -/
def nestedInfo (delta : ModelDelta M) (property : ModelProperty M) (wrapper : Wrapper)
    (model : M) : DeltaInfo M :=
  let nested := delta.nestedDelta property wrapper model
  { path := property.name
    previous := ⟨.option (.model model), .ofOption nested.previous⟩
    current := ⟨.option (.model model), .ofOption nested.current⟩
    declaredType := property.type }

/-- Every property of the model itself that differs. -/
def rootDeltas (delta : ModelDelta M) : List (DeltaInfo M) :=
  if delta.isAbsent then []
  else delta.properties.flatMap fun property =>
    match property.nested with
    | none => delta.changedInfo property
    | some (wrapper, model) =>
      if (delta.nestedDelta property wrapper model).hasAnyDeltas then
        [delta.nestedInfo property wrapper model]
      else []

/-! ## Selection -/

instance : HasDelta (ModelDelta M) where
  hasDelta := hasAnyDeltas

instance : DeltaTracker (ModelDelta M) (DeltaInfo M) where
  hasAnyDeltas := hasAnyDeltas
  allDeltas := allDeltas

/-- Whether the part of the delta that `selector` picks holds a difference. -/
def hasDeltaIn {S : Type} [HasDelta S] (delta : ModelDelta M) (selector : ModelDelta M → S) :
    Bool :=
  HasDelta.hasDelta (selector delta)

/-- Whether a property differs, picked by its accessor. -/
def hasDeltaInMember (delta : ModelDelta M) (property : ModelProperty M) : Bool :=
  match property.nested with
  | none => delta.hasDeltaIn (·.propertyDelta property)
  | some (wrapper, model) => delta.hasDeltaIn (·.nestedDelta property wrapper model)

end Catalogued
end ModelDelta

/-! ## Two present values -/

namespace Value

variable {M : Type}

/-- Compares `value` of the given model, as the previous side, with `current`. -/
def deltaTo (model : M) (value current : Value M) : ModelDelta M where
  model := model
  previous := some value
  current := some current

/-- Compares `previous` with `value` of the given model, as the current side. -/
def deltaFrom (model : M) (value previous : Value M) : ModelDelta M where
  model := model
  previous := some previous
  current := some value

end Value
end FieldDelta
