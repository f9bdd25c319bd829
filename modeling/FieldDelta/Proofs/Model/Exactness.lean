import FieldDelta.Model.Samples

/-! # Values that the comparison tells apart

The comparison of values is the equality of their types, so a value that holds a number of double
precision need not equal itself.  A value without one is exact: it compares equal to itself and to
nothing else.  The values of the sample models are exact.

* `Value.fits` — which values a type has;
* `Value.same_iff` — the comparison of exact values is equality;
* `Value.isExact_of_fits` — the values of a type without such numbers are exact.
-/

namespace FieldDelta

variable {M : Type}

/-! ## Exact values and types -/

mutual

/-- Whether a value holds no number of double precision. -/
def Value.isExact : Value M → Bool
  | .float _ => false
  | .present value => value.isExact
  | .list items => Value.allExact items
  | .boxed value => value.isExact
  | .cell value => value.isExact
  | .pair first second => first.isExact && second.isExact
  | .record _ fields => Value.allExact fields
  | _ => true

/-- Whether all values are exact. -/
def Value.allExact : List (Value M) → Bool
  | [] => true
  | value :: values => value.isExact && Value.allExact values

end

/-- Whether a type has no numbers of double precision, except inside of models. -/
def ValueType.isExact : ValueType M → Bool
  | .float => false
  | .option type => type.isExact
  | .list type => type.isExact
  | .box type => type.isExact
  | .cell type => type.isExact
  | .pair first second => first.isExact && second.isExact
  | _ => true

/-- A catalogue of models that hold no numbers of double precision. -/
class ExactCatalogue (M : Type) [Catalogue M] : Prop where
  fields_exact : ∀ key : M, ∀ field ∈ (Catalogue.schema key).fields, field.type.isExact = true
  initial_exact : ∀ key : M, Value.allExact (Catalogue.initialFields key) = true

instance : ExactCatalogue SampleModel where
  fields_exact key := by cases key <;> decide
  initial_exact key := by cases key <;> decide

/-! ## The comparison of exact values -/

section Comparison

variable [DecidableEq M]

mutual

theorem Value.same_iff {v w : Value M} (h_exact : v.isExact = true) : v.same w = true ↔ v = w := by
  -- Only one side need be exact: what compares equal to it has its form.
  cases v with
  | float x => simp [Value.isExact] at h_exact
  | present v =>
    rw [Value.isExact] at h_exact
    cases w with
    | present w => simp [Value.same, Value.same_iff h_exact]
    | _ => simp [Value.same]
  | list vs =>
    rw [Value.isExact] at h_exact
    cases w with
    | list ws => simp [Value.same, Value.sameAll_iff h_exact]
    | _ => simp [Value.same]
  | boxed v =>
    rw [Value.isExact] at h_exact
    cases w with
    | boxed w => simp [Value.same, Value.same_iff h_exact]
    | _ => simp [Value.same]
  | cell v =>
    rw [Value.isExact] at h_exact
    cases w with
    | cell w => simp [Value.same, Value.same_iff h_exact]
    | _ => simp [Value.same]
  | pair a b =>
    rw [Value.isExact, Bool.and_eq_true] at h_exact
    cases w with
    | pair c d => simp [Value.same, Value.same_iff h_exact.1, Value.same_iff h_exact.2]
    | _ => simp [Value.same]
  | record key vs =>
    rw [Value.isExact] at h_exact
    cases w with
    | record other ws => simp [Value.same, Value.sameAll_iff h_exact]
    | _ => simp [Value.same]
  | _ => cases w <;> simp [Value.same]

theorem Value.sameAll_iff {vs ws : List (Value M)} (h_exact : Value.allExact vs = true) :
    Value.sameAll vs ws = true ↔ vs = ws := by
  cases vs with
  | nil => cases ws <;> simp [Value.sameAll]
  | cons v vs =>
    rw [Value.allExact, Bool.and_eq_true] at h_exact
    cases ws with
    | nil => simp [Value.sameAll]
    | cons w ws => simp [Value.sameAll, Value.same_iff h_exact.1, Value.sameAll_iff h_exact.2]

end

end Comparison

/-! ## Parts of exact values -/

theorem Value.isExact_of_mem {values : List (Value M)} (h_exact : Value.allExact values = true)
    {value : Value M} (h_mem : value ∈ values) : value.isExact = true := by
  induction values with
  | nil => cases h_mem
  | cons first rest ih =>
    rw [Value.allExact, Bool.and_eq_true] at h_exact
    rcases List.mem_cons.mp h_mem with rfl | h_rest
    · exact h_exact.1
    · exact ih h_exact.2 h_rest

theorem Value.isExact_field? {value field : Value M} (h_exact : value.isExact = true)
    {index : Nat} (h_field : value.field? index = some field) : field.isExact = true := by
  cases value with
  | record key fields =>
    rw [Value.isExact] at h_exact
    exact Value.isExact_of_mem h_exact (List.mem_of_getElem? h_field)
  | _ => cases h_field

theorem Wrapper.isExact_project {wrapper : Wrapper} {value inner : Value M}
    (h_exact : value.isExact = true) (h_inner : wrapper.project value = some inner) :
    inner.isExact = true := by
  unfold Wrapper.project at h_inner
  split at h_inner <;> simp_all [Value.isExact]

/-- The value that stands for a missing one is exact if its type is. -/
theorem ValueType.isExact_initial [Catalogue M] [ExactCatalogue M] {type : ValueType M}
    (h_exact : type.isExact = true) : type.initial.isExact = true := by
  induction type with
  | box type ih => exact ih h_exact
  | cell type ih => exact ih h_exact
  | pair first second ih_first ih_second =>
    rw [ValueType.isExact, Bool.and_eq_true] at h_exact
    rw [ValueType.initial, Value.isExact, ih_first h_exact.1, ih_second h_exact.2]
    rfl
  | model key => exact ExactCatalogue.initial_exact key
  | float => cases h_exact
  | _ => rfl

/-! ## Values of a type -/

section Typing

variable [Catalogue M] [DecidableEq M]

mutual

/-- Whether a value is of a type. -/
def Value.fits : Value M → ValueType M → Bool
  | .integer n, .integer kind => kind.holds n
  | .float _, .float => true
  | .bool _, .bool => true
  | .char _, .char => true
  | .text _, .text => true
  | .text _, .sharedText => true
  | .unit, .unit => true
  | .absent, .option _ => true
  | .present value, .option type => value.fits type
  | .list items, .list type => Value.allFit items type
  | .boxed value, .box type => value.fits type
  | .cell value, .cell type => value.fits type
  | .pair a b, .pair first second => a.fits first && b.fits second
  | .record key fields, .model model =>
    decide (key = model) && Value.fitFields fields (Catalogue.schema key).fields
  | _, _ => false

/-- Whether all values are of one type. -/
def Value.allFit : List (Value M) → ValueType M → Bool
  | [], _ => true
  | value :: values, type => value.fits type && Value.allFit values type

/-- Whether values are those of fields, one for each. -/
def Value.fitFields : List (Value M) → List (ModelField M) → Bool
  | [], [] => true
  | value :: values, field :: fields => value.fits field.type && Value.fitFields values fields
  | _, _ => false

end

mutual

theorem Value.isExact_of_fits [ExactCatalogue M] {value : Value M} {type : ValueType M}
    (h_fits : value.fits type = true) (h_type : type.isExact = true) : value.isExact = true := by
  cases value with
  | float x =>
    cases type with
    | float => cases h_type
    | _ => cases h_fits
  | present value =>
    cases type with
    | option type =>
      rw [Value.fits] at h_fits
      rw [Value.isExact]
      exact Value.isExact_of_fits h_fits h_type
    | _ => cases h_fits
  | list items =>
    cases type with
    | list type =>
      rw [Value.fits] at h_fits
      rw [Value.isExact]
      exact Value.allExact_of_allFit h_fits h_type
    | _ => cases h_fits
  | boxed value =>
    cases type with
    | box type =>
      rw [Value.fits] at h_fits
      rw [Value.isExact]
      exact Value.isExact_of_fits h_fits h_type
    | _ => cases h_fits
  | cell value =>
    cases type with
    | cell type =>
      rw [Value.fits] at h_fits
      rw [Value.isExact]
      exact Value.isExact_of_fits h_fits h_type
    | _ => cases h_fits
  | pair a b =>
    cases type with
    | pair first second =>
      rw [Value.fits, Bool.and_eq_true] at h_fits
      rw [ValueType.isExact, Bool.and_eq_true] at h_type
      rw [Value.isExact, Value.isExact_of_fits h_fits.1 h_type.1,
        Value.isExact_of_fits h_fits.2 h_type.2]
      rfl
    | _ => cases h_fits
  | record key fields =>
    cases type with
    | model model =>
      rw [Value.fits, Bool.and_eq_true] at h_fits
      -- The fields are exact because the catalogue is; the type says nothing of them.
      exact Value.allExact_of_fitFields h_fits.2 (ExactCatalogue.fields_exact key)
    | _ => cases h_fits
  | _ => rfl

theorem Value.allExact_of_allFit [ExactCatalogue M] {values : List (Value M)}
    {type : ValueType M} (h_fit : Value.allFit values type = true) (h_type : type.isExact = true) :
    Value.allExact values = true := by
  cases values with
  | nil => rfl
  | cons value values =>
    rw [Value.allFit, Bool.and_eq_true] at h_fit
    rw [Value.allExact, Value.isExact_of_fits h_fit.1 h_type,
      Value.allExact_of_allFit h_fit.2 h_type]
    rfl

theorem Value.allExact_of_fitFields [ExactCatalogue M] {values : List (Value M)}
    {fields : List (ModelField M)} (h_fit : Value.fitFields values fields = true)
    (h_types : ∀ field ∈ fields, field.type.isExact = true) : Value.allExact values = true := by
  cases values with
  | nil => rfl
  | cons value values =>
    cases fields with
    | nil => cases h_fit
    | cons field fields =>
      rw [Value.fitFields, Bool.and_eq_true] at h_fit
      rw [List.forall_mem_cons] at h_types
      rw [Value.allExact, Value.isExact_of_fits h_fit.1 h_types.1,
        Value.allExact_of_fitFields h_fit.2 h_types.2]
      rfl

end

end Typing

/-! ## Values of a model -/

/-- A value of a model. -/
structure ModelValue [Catalogue M] [DecidableEq M] (model : M) where
  value : Value M
  fits : value.fits (.model model) = true

/-- A new model, with the initial values of its fields. -/
instance (model : SampleModel) : Inhabited (ModelValue model) where
  default :=
    { value := (ValueType.model model).initial
      fits := by cases model <;> decide }

theorem ModelValue.isExact [Catalogue M] [DecidableEq M] [ExactCatalogue M] {model : M}
    (v : ModelValue model) : v.value.isExact = true :=
  Value.isExact_of_fits v.fits rfl

end FieldDelta
