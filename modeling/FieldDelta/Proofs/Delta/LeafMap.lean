import FieldDelta.Proofs.Delta.Nesting
import FieldDelta.Proofs.Delta.Paths

/-! # Leaf maps

The leaves of a model are the properties that are compared by their values, at any depth.  A list
of names leads to a leaf if it goes through nested properties to a plain one; models that hold
themselves have leaves at every depth.  The leaf map of a side gives every path to a leaf the value
that is found there, or the initial value of the leaf's type if something on the way is missing.

* `leafMap` — the leaf map of a side;
* `Precedes` — the order in which a walk through the declarations meets leaves;
* `overwrite` — a leaf map with entries of a listing written over it.
-/

namespace FieldDelta

variable {M : Type}

/-! ## Overwriting -/

/-- Leaves with the current values of a listing written over them, one entry after another. -/
def overwrite (leaves : String → Option (ErasedValue M)) :
    List (DeltaInfo M) → String → Option (ErasedValue M)
  | [] => leaves
  | info :: infos =>
    overwrite (fun path => if path = info.path then some info.current else leaves path) infos

/-- If the entries of a listing are leaves of a side, overwriting puts these in place. -/
theorem overwrite_eq {infos : List (DeltaInfo M)} {target : String → Option (ErasedValue M)}
    (h_infos : ∀ info ∈ infos, target info.path = some info.current)
    (leaves : String → Option (ErasedValue M)) (path : String) :
    overwrite leaves infos path =
      if path ∈ infos.map (·.path) then target path else leaves path := by
  induction infos generalizing leaves with
  | nil => rfl
  | cons info infos ih =>
    rw [List.forall_mem_cons] at h_infos
    rw [overwrite, ih h_infos.2]
    -- A later entry at the path wins over this one, but both are the leaf of the target.
    by_cases h_rest : path ∈ infos.map (·.path)
    · simp [h_rest]
    · by_cases h_path : path = info.path
      · simp [h_path, h_infos.1]
      · simp [h_path, h_rest]

variable [Catalogue M]

/-! ## Leaves -/

/-- The type of the leaf that names lead to. -/
def leafType? (model : M) : List String → Option (ValueType M)
  | [] => none
  | name :: rest =>
    match property? model name with
    | none => none
    | some property =>
      match property.nested, rest with
      | none, [] => some property.type
      | none, _ :: _ => none
      | some (_, inner), rest => leafType? inner rest

/-- What is found in a value of a model where names lead, if nothing is missing on the way. -/
def found? (model : M) (value : Value M) : List String → Option (Value M)
  | [] => none
  | name :: rest =>
    match property? model name with
    | none => none
    | some property =>
      match property.nested with
      | none => value.field? property.index
      | some (wrapper, inner) =>
        ((value.field? property.index).bind wrapper.project).bind fun held => found? inner held rest

/-- The leaf of a side that names lead to. -/
def leafAt (model : M) (side : Option (Value M)) (names : List String) : Option (ErasedValue M) :=
  (leafType? model names).map fun type =>
    { type := type
      value := (side.bind fun value => found? model value names).getD type.initial }

/-- The leaves of a side by their paths. -/
def leafMap (model : M) (side : Option (Value M)) (path : String) : Option (ErasedValue M) :=
  leafAt model side (pathSegments path)

/-- Names lead to the leaf `a` before they lead to the leaf `b`, if the models are walked through
    in declaration order and each nested property is followed to its end. -/
inductive Precedes : M → List String → List String → Prop
  | apart {model : M} {first second : ModelProperty M} (a b : List String)
      (h_order : [first, second].Sublist (Catalogue.schema model).properties) :
      Precedes model (first.name :: a) (second.name :: b)
  | inside {model inner : M} {property : ModelProperty M} {wrapper : Wrapper} {a b : List String}
      (h_property : property ∈ (Catalogue.schema model).properties)
      (h_nested : property.nested = some (wrapper, inner)) (h_inner : Precedes inner a b) :
      Precedes model (property.name :: a) (property.name :: b)

/-! ## Leaves behind one property -/

section Properties

variable [WellNamed M] {model : M} {property : ModelProperty M}

theorem leafAt_plain (h_property : property ∈ (Catalogue.schema model).properties)
    (h_plain : property.nested = none) (side : Option (Value M)) :
    leafAt model side [property.name] =
      some ⟨property.type, ModelDelta.sideValue property side⟩ := by
  have h_found : property? model property.name = some property :=
    property?_eq_some.mpr ⟨h_property, rfl⟩
  simp only [leafAt, leafType?, found?, h_found, h_plain, Option.map_some]
  rfl

theorem leafAt_nested (h_property : property ∈ (Catalogue.schema model).properties)
    {wrapper : Wrapper} {inner : M} (h_nested : property.nested = some (wrapper, inner))
    (side : Option (Value M)) (names : List String) :
    leafAt model side (property.name :: names) =
      leafAt inner (ModelDelta.projectSide property wrapper side) names := by
  have h_found : property? model property.name = some property :=
    property?_eq_some.mpr ⟨h_property, rfl⟩
  have h_type : leafType? model (property.name :: names) = leafType? inner names := by
    simp only [leafType?, h_found, h_nested]
  have h_value : (side.bind fun value => found? model value (property.name :: names)) =
      (ModelDelta.projectSide property wrapper side).bind fun held => found? inner held names := by
    simp only [found?, h_found, h_nested, ModelDelta.projectSide, Option.bind_assoc]
  rw [leafAt, leafAt, h_type, h_value]

theorem leafMap_plain (h_property : property ∈ (Catalogue.schema model).properties)
    (h_plain : property.nested = none) (side : Option (Value M)) :
    leafMap model side property.name =
      some ⟨property.type, ModelDelta.sideValue property side⟩ := by
  rw [leafMap, pathSegments_of_isPlainName (WellNamed.name_plain model property h_property)]
  exact leafAt_plain h_property h_plain side

theorem leafMap_nested (h_property : property ∈ (Catalogue.schema model).properties)
    {wrapper : Wrapper} {inner : M} (h_nested : property.nested = some (wrapper, inner))
    (side : Option (Value M)) (path : String) :
    leafMap model side (extendPath property.name path) =
      leafMap inner (ModelDelta.projectSide property wrapper side) path := by
  rw [leafMap, pathSegments_extendPath (WellNamed.name_plain model property h_property)]
  exact leafAt_nested h_property h_nested side (pathSegments path)

example : leafMap SampleModel.node (SampleModel.chain [1, 2]) "next.value" =
    some ⟨.integer .i32, .integer 2⟩ := by
  rfl

/-- A leaf is a plain property of the model or lies behind a nested one. -/
theorem exists_property_of_leafAt {side : Option (Value M)} {names : List String}
    {leaf : ErasedValue M} (h_leaf : leafAt model side names = some leaf) :
    ∃ property ∈ (Catalogue.schema model).properties, ∃ rest, names = property.name :: rest ∧
      (property.nested = none → rest = []) := by
  obtain ⟨type, h_type, -⟩ := Option.map_eq_some_iff.mp h_leaf
  cases names with
  | nil => cases h_type
  | cons name rest =>
    cases h_found : property? model name with
    | none => simp [leafType?, h_found] at h_type
    | some property =>
      obtain ⟨h_property, h_name⟩ := property?_eq_some.mp h_found
      refine ⟨property, h_property, rest, by rw [h_name], fun h_plain => ?_⟩
      cases rest with
      | nil => rfl
      | cons next rest => simp [leafType?, h_found, h_plain] at h_type

end Properties

/-- Whether names lead to a leaf is not a matter of the side. -/
theorem leafAt_eq_none_iff {model : M} {names : List String} (a b : Option (Value M)) :
    leafAt model a names = none ↔ leafAt model b names = none := by
  simp [leafAt]

/-! ## The order of leaves -/

theorem Precedes.ne [WellNamed M] {model : M} {a b : List String} (h_order : Precedes model a b) :
    a ≠ b := by
  induction h_order with
  | @apart model first second a b h_order =>
    intro h_eq
    -- Two properties in declaration order have different names.
    have h_names : [first.name, second.name].Nodup :=
      (WellNamed.names_nodup model).sublist (h_order.map ModelProperty.name)
    simp [(List.cons.inj h_eq).1] at h_names
  | inside _ _ _ ih => exact fun h_eq => ih (List.cons.inj h_eq).2

end FieldDelta
