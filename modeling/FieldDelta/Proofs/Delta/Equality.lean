import FieldDelta.Proofs.Delta.Leaves
import FieldDelta.Proofs.Delta.Views

/-! # Deltas and equality

If all fields of a model are tracked, the delta of two values holds a difference exactly if the
values differ: `ModelDelta.hasAnyDeltas_eq_not_same`.

One thing can come between: a missing side stands for the initial values, so a nested model that
only one side has goes unnoticed if it has nothing but these.  `ToldApart` rules this out, at every
place that is reached through nested models that both sides have.

* `Schema.fullyTracked` — all fields of a model are tracked;
* `Meets` — two values of an inner model that are reached by one path in both sides;
* `ToldApart` — a nested model that only one side has differs from its initial values.
-/

namespace FieldDelta

variable {M : Type}

/-! ## Values behind wrappers -/

/-- The type of a model in a wrapper. -/
def Wrapper.around : Wrapper → M → ValueType M
  | .plain, key => .model key
  | .optional, key => .option (.model key)
  | .boxed, key => .box (.model key)
  | .optionalBoxed, key => .option (.box (.model key))

/-- A value behind a wrapper with what the wrapper holds, if anything. -/
def Wrapper.wrap : Wrapper → Option (Value M) → Value M
  | _, none => .absent
  | .plain, some held => held
  | .optional, some held => .present held
  | .boxed, some held => .boxed held
  | .optionalBoxed, some held => .present (.boxed held)

theorem ValueType.eq_around_of_nested? {type : ValueType M} {wrapper : Wrapper} {inner : M}
    (h_nested : type.nested? = some (wrapper, inner)) : type = wrapper.around inner := by
  unfold ValueType.nested? at h_nested
  split at h_nested <;> cases h_nested <;> rfl

/-! ## Tracked fields -/

/-- All fields of the model are tracked. -/
def Schema.fullyTracked (schema : Schema M) : Bool :=
  schema.fields.all (·.tracked)

theorem Schema.exists_field {schema : Schema M} {property : ModelProperty M}
    (h_property : property ∈ schema.properties) :
    ∃ field, schema.fields[property.index]? = some field ∧ property.type = field.type := by
  obtain ⟨⟨field, index⟩, h_mem, rfl⟩ := List.mem_map.mp h_property
  exact ⟨field, List.mem_zipIdx_iff_getElem?.mp (List.mem_filter.mp h_mem).1, rfl⟩

theorem Schema.exists_property {schema : Schema M} (h_tracked : schema.fullyTracked = true)
    {index : Nat} (h_index : index < schema.fields.length) :
    ∃ property ∈ schema.properties, property.index = index := by
  have h_mem : (schema.fields[index], index) ∈ schema.fields.zipIdx :=
    List.mem_zipIdx_iff_getElem?.mpr (List.getElem?_eq_getElem h_index)
  have h_field : schema.fields[index].tracked = true :=
    List.all_eq_true.mp h_tracked _ (List.getElem_mem h_index)
  exact ⟨schema.property schema.fields[index] index,
    List.mem_map.mpr ⟨_, List.mem_filter.mpr ⟨h_mem, h_field⟩, rfl⟩, rfl⟩

theorem Schema.type_of_nested {schema : Schema M} {property : ModelProperty M}
    (h_property : property ∈ schema.properties) {wrapper : Wrapper} {inner : M}
    (h_nested : property.nested = some (wrapper, inner)) :
    property.type = wrapper.around inner := by
  obtain ⟨⟨field, index⟩, -, rfl⟩ := List.mem_map.mp h_property
  simp only [Schema.property] at h_nested
  split at h_nested
  · exact ValueType.eq_around_of_nested? h_nested
  · cases h_nested

/-! ## Values of a type -/

section Typing

variable [Catalogue M] [DecidableEq M]

theorem Value.exists_eq_record {value : Value M} {key : M}
    (h_fits : value.fits (.model key) = true) :
    ∃ fields, value = .record key fields ∧
      Value.fitFields fields (Catalogue.schema key).fields = true := by
  cases value with
  | record other fields =>
    rw [Value.fits, Bool.and_eq_true, decide_eq_true_iff] at h_fits
    obtain ⟨rfl, h_fields⟩ := h_fits
    exact ⟨fields, rfl, h_fields⟩
  | _ => cases h_fits

theorem Value.eq_absent_or_present {value : Value M} {type : ValueType M}
    (h_fits : value.fits (.option type) = true) :
    value = .absent ∨ ∃ held, value = .present held ∧ held.fits type = true := by
  cases value with
  | absent => exact .inl rfl
  | present held => exact .inr ⟨held, rfl, by rwa [Value.fits] at h_fits⟩
  | _ => cases h_fits

theorem Value.exists_eq_boxed {value : Value M} {type : ValueType M}
    (h_fits : value.fits (.box type) = true) :
    ∃ held, value = .boxed held ∧ held.fits type = true := by
  cases value with
  | boxed held => exact ⟨held, rfl, by rwa [Value.fits] at h_fits⟩
  | _ => cases h_fits

/-- What a wrapper of a type holds is a value of the model. -/
theorem Wrapper.fits_project {wrapper : Wrapper} {inner : M} {value held : Value M}
    (h_fits : value.fits (wrapper.around inner) = true)
    (h_held : wrapper.project value = some held) : held.fits (.model inner) = true := by
  cases wrapper with
  | plain =>
    cases h_held
    exact h_fits
  | optional =>
    obtain rfl | ⟨present, rfl, h_present⟩ := Value.eq_absent_or_present h_fits
    · cases h_held
    · cases h_held
      exact h_present
  | boxed =>
    obtain ⟨inside, rfl, h_inside⟩ := Value.exists_eq_boxed h_fits
    cases h_held
    exact h_inside
  | optionalBoxed =>
    obtain rfl | ⟨present, rfl, h_present⟩ := Value.eq_absent_or_present h_fits
    · cases h_held
    · obtain ⟨inside, rfl, h_inside⟩ := Value.exists_eq_boxed h_present
      cases h_held
      exact h_inside

/-- A value in a wrapper is settled by what the wrapper holds. -/
theorem Wrapper.wrap_project {wrapper : Wrapper} {inner : M} {value : Value M}
    (h_fits : value.fits (wrapper.around inner) = true) :
    wrapper.wrap (wrapper.project value) = value := by
  cases wrapper with
  | plain => rfl
  | optional =>
    obtain rfl | ⟨present, rfl, -⟩ := Value.eq_absent_or_present h_fits <;> rfl
  | boxed =>
    obtain ⟨inside, rfl, -⟩ := Value.exists_eq_boxed h_fits
    rfl
  | optionalBoxed =>
    obtain rfl | ⟨present, rfl, h_present⟩ := Value.eq_absent_or_present h_fits
    · rfl
    · obtain ⟨inside, rfl, -⟩ := Value.exists_eq_boxed h_present
      rfl

theorem Wrapper.project_eq_iff {wrapper : Wrapper} {inner : M} {value other : Value M}
    (h_value : value.fits (wrapper.around inner) = true)
    (h_other : other.fits (wrapper.around inner) = true) :
    wrapper.project value = wrapper.project other ↔ value = other := by
  refine ⟨fun h_eq => ?_, fun h_eq => congrArg wrapper.project h_eq⟩
  rw [← Wrapper.wrap_project h_value, h_eq, Wrapper.wrap_project h_other]

/-! ## Fields of values -/

theorem Value.exists_getElem? {values : List (Value M)} {fields : List (ModelField M)}
    (h_fit : Value.fitFields values fields = true) {index : Nat} {field : ModelField M}
    (h_field : fields[index]? = some field) :
    ∃ value, values[index]? = some value ∧ value.fits field.type = true := by
  induction values generalizing fields index with
  | nil =>
    cases fields with
    | nil => cases h_field
    | cons => cases h_fit
  | cons value values ih =>
    cases fields with
    | nil => cases h_fit
    | cons first rest =>
      rw [Value.fitFields, Bool.and_eq_true] at h_fit
      cases index with
      | zero =>
        obtain rfl : first = field := Option.some.inj h_field
        exact ⟨value, rfl, h_fit.1⟩
      | succ index => exact ih h_fit.2 h_field

theorem Value.length_eq_of_fitFields {values : List (Value M)} {fields : List (ModelField M)}
    (h_fit : Value.fitFields values fields = true) : values.length = fields.length := by
  induction values generalizing fields with
  | nil =>
    cases fields with
    | nil => rfl
    | cons => cases h_fit
  | cons value values ih =>
    cases fields with
    | nil => cases h_fit
    | cons first rest =>
      rw [Value.fitFields, Bool.and_eq_true] at h_fit
      simp [ih h_fit.2]

/-- A value of a model has a value for each property. -/
theorem Value.exists_field? {model : M} {value : Value M}
    (h_fits : value.fits (.model model) = true) {property : ModelProperty M}
    (h_property : property ∈ (Catalogue.schema model).properties) :
    ∃ held, value.field? property.index = some held ∧ held.fits property.type = true := by
  obtain ⟨fields, rfl, h_fields⟩ := Value.exists_eq_record h_fits
  obtain ⟨field, h_field, h_type⟩ := Schema.exists_field h_property
  rw [h_type]
  exact Value.exists_getElem? h_fields h_field

/-- Values of a model with tracked fields only are equal if their properties are. -/
theorem Value.eq_of_properties {model : M}
    (h_tracked : (Catalogue.schema model).fullyTracked = true) {a b : Value M}
    (h_a : a.fits (.model model) = true) (h_b : b.fits (.model model) = true)
    (h_eq : ∀ property ∈ (Catalogue.schema model).properties,
      a.field? property.index = b.field? property.index) : a = b := by
  obtain ⟨as, rfl, h_as⟩ := Value.exists_eq_record h_a
  obtain ⟨bs, rfl, h_bs⟩ := Value.exists_eq_record h_b
  have h_as_length := Value.length_eq_of_fitFields h_as
  have h_bs_length := Value.length_eq_of_fitFields h_bs
  congr 1
  refine List.ext_getElem? fun index => ?_
  by_cases h_index : index < (Catalogue.schema model).fields.length
  · obtain ⟨property, h_property, rfl⟩ := Schema.exists_property h_tracked h_index
    exact h_eq property h_property
  · rw [List.getElem?_eq_none (by omega), List.getElem?_eq_none (by omega)]

end Typing

/-! ## The condition on nested models -/

section Conditions

variable [Catalogue M]

open ModelDelta (projectSide)

/-- Nested models that both sides have lead from two values of a model to two of an inner one. -/
inductive Meets : M → Value M → Value M → M → Value M → Value M → Prop
  | here (model : M) (a b : Value M) : Meets model a b model a b
  | inside {model inner target : M} {property : ModelProperty M} {wrapper : Wrapper}
      {a b c d v w : Value M} (h_property : property ∈ (Catalogue.schema model).properties)
      (h_nested : property.nested = some (wrapper, inner))
      (h_a : projectSide property wrapper (some a) = some c)
      (h_b : projectSide property wrapper (some b) = some d)
      (h_inner : Meets inner c d target v w) : Meets model a b target v w

/-- A value has a leaf that differs from the initial value of the leaf. -/
def HasOwnLeaf (model : M) (value : Value M) : Prop :=
  ∃ path, leafMap model (some value) path ≠ leafMap model none path

/-- One side is missing where the other one is `held`. -/
def OnlyOneHas (previous current : Option (Value M)) (held : Value M) : Prop :=
  previous = some held ∧ current = none ∨ previous = none ∧ current = some held

/-- Wherever one path leads to a nested property in both sides and only one of them has a model
    there, this model has a leaf of its own. -/
def ToldApart (model : M) (a b : Value M) : Prop :=
  ∀ inner v w, Meets model a b inner v w →
    ∀ property ∈ (Catalogue.schema inner).properties, ∀ wrapper key,
      property.nested = some (wrapper, key) → ∀ held,
        OnlyOneHas (projectSide property wrapper (some v)) (projectSide property wrapper (some w))
          held → HasOwnLeaf key held

/-- The condition, one property at a time. -/
theorem toldApart_iff {model : M} {a b : Value M} :
    ToldApart model a b ↔ ∀ property ∈ (Catalogue.schema model).properties, ∀ wrapper inner,
      property.nested = some (wrapper, inner) →
        (∀ held, OnlyOneHas (projectSide property wrapper (some a))
          (projectSide property wrapper (some b)) held → HasOwnLeaf inner held) ∧
        ∀ c d, projectSide property wrapper (some a) = some c →
          projectSide property wrapper (some b) = some d → ToldApart inner c d := by
  constructor
  · intro h_apart property h_property wrapper inner h_nested
    refine ⟨h_apart model a b (.here model a b) property h_property wrapper inner h_nested, ?_⟩
    intro c d h_a h_b target v w h_meets
    exact h_apart target v w (.inside h_property h_nested h_a h_b h_meets)
  · intro h_properties target v w h_meets property h_property wrapper key h_nested
    cases h_meets with
    | here => exact (h_properties property h_property wrapper key h_nested).1
    | inside h_first h_link h_a h_b h_inner =>
      have h_rest := (h_properties _ h_first _ _ h_link).2 _ _ h_a h_b
      exact h_rest target v w h_inner property h_property wrapper key h_nested

end Conditions

/-! ## Differences and equality -/

namespace ModelDelta

section Exact

variable [Catalogue M] [WellNamed M] [DecidableEq M] [ExactCatalogue M] {delta : ModelDelta M}

theorem hasAnyDeltas_iff_leafMap (h_exact : delta.PreviousExact) :
    delta.hasAnyDeltas = true ↔ ∃ path,
      leafMap delta.model delta.previous path ≠ leafMap delta.model delta.current path := by
  rw [hasAnyDeltas_iff]
  have h_lists := listsLeaves_of_previousExact h_exact
  constructor
  · intro h_some
    obtain ⟨info, h_info⟩ := List.exists_mem_of_ne_nil _ h_some
    exact ⟨info.path, (h_lists.mem_paths info.path).mp (List.mem_map_of_mem h_info)⟩
  · rintro ⟨path, h_path⟩
    obtain ⟨info, h_info, -⟩ := List.mem_map.mp ((h_lists.mem_paths path).mpr h_path)
    exact List.ne_nil_of_mem h_info

/-- If only one side is there, a delta holds a difference if this side has a leaf of its own. -/
theorem hasAnyDeltas_of_hasOwnLeaf (h_exact : delta.PreviousExact) {held : Value M}
    (h_leaf : HasOwnLeaf delta.model held)
    (h_sides : OnlyOneHas delta.previous delta.current held) : delta.hasAnyDeltas = true := by
  obtain ⟨path, h_path⟩ := h_leaf
  refine (hasAnyDeltas_iff_leafMap h_exact).mpr ⟨path, ?_⟩
  obtain ⟨h_previous, h_current⟩ | ⟨h_previous, h_current⟩ := h_sides
  · rwa [h_previous, h_current]
  · rw [h_previous, h_current]
    exact h_path.symm

end Exact

/-- Two values of a sample model with tracked fields only, told apart wherever one of them lacks
    a nested model. -/
structure Comparable (model : SampleModel) (a b : Value SampleModel) : Prop where
  tracked : (Catalogue.schema model).fullyTracked = true
  previous_fits : a.fits (.model model) = true
  current_fits : b.fits (.model model) = true
  apart : ToldApart model a b

/-- No sample model with tracked fields only holds one with others. -/
theorem fullyTracked_nested {model inner : SampleModel}
    (h_tracked : (Catalogue.schema model).fullyTracked = true)
    {property : ModelProperty SampleModel}
    (h_property : property ∈ (Catalogue.schema model).properties) {wrapper : Wrapper}
    (h_nested : property.nested = some (wrapper, inner)) :
    (Catalogue.schema inner).fullyTracked = true := by
  have h_all : ∀ held ∈ (Catalogue.schema model).properties.filterMap (·.nested),
      (Catalogue.schema held.2).fullyTracked = true := by
    cases model with
    | account => cases h_tracked
    | _ => decide
  exact h_all (wrapper, inner) (List.mem_filterMap.mpr ⟨property, h_property, h_nested⟩)

namespace Comparable

variable {model inner : SampleModel} {a b : Value SampleModel}
  {property : ModelProperty SampleModel} {wrapper : Wrapper}

theorem previousExact (h : Comparable model a b) : (a.deltaTo model b).PreviousExact := by
  rintro value ⟨⟩
  exact Value.isExact_of_fits h.previous_fits rfl

theorem previous_fits_field (h : Comparable model a b)
    (h_property : property ∈ (Catalogue.schema model).properties) {v : Value SampleModel}
    (h_v : a.field? property.index = some v) : v.fits property.type = true := by
  obtain ⟨held, h_held, h_fits⟩ := Value.exists_field? h.previous_fits h_property
  rwa [Option.some.inj (h_v.symm.trans h_held)]

theorem current_fits_field (h : Comparable model a b)
    (h_property : property ∈ (Catalogue.schema model).properties) {w : Value SampleModel}
    (h_w : b.field? property.index = some w) : w.fits property.type = true := by
  obtain ⟨held, h_held, h_fits⟩ := Value.exists_field? h.current_fits h_property
  rwa [Option.some.inj (h_w.symm.trans h_held)]

theorem inside (h : Comparable model a b)
    (h_property : property ∈ (Catalogue.schema model).properties)
    (h_nested : property.nested = some (wrapper, inner)) {v w c d : Value SampleModel}
    (h_v : a.field? property.index = some v) (h_w : b.field? property.index = some w)
    (h_c : wrapper.project v = some c) (h_d : wrapper.project w = some d) :
    Comparable inner c d := by
  have h_v_fits := h.previous_fits_field h_property h_v
  have h_w_fits := h.current_fits_field h_property h_w
  rw [Schema.type_of_nested h_property h_nested] at h_v_fits h_w_fits
  exact
    { tracked := fullyTracked_nested h.tracked h_property h_nested
      previous_fits := Wrapper.fits_project h_v_fits h_c
      current_fits := Wrapper.fits_project h_w_fits h_d
      apart := (toldApart_iff.mp h.apart property h_property wrapper inner h_nested).2 c d
        (by simp [projectSide, h_v, h_c]) (by simp [projectSide, h_w, h_d]) }

/-- A plain property differs exactly if the two values of its field do. -/
theorem differs_plain_iff (h : Comparable model a b)
    (h_property : property ∈ (Catalogue.schema model).properties)
    (h_plain : property.nested = none) {v w : Value SampleModel}
    (h_v : a.field? property.index = some v) (h_w : b.field? property.index = some w) :
    (a.deltaTo model b).differs property = true ↔ v ≠ w := by
  rw [differs_plain _ h_plain, hasChanged_iff h.previousExact h_property]
  simp [Value.deltaTo, sideValue, h_v, h_w]

/-- A nested property differs exactly if the two values of its field do, if this is so of the
    models behind the wrapper where both sides have one. -/
theorem differs_nested_iff (h : Comparable model a b)
    (h_property : property ∈ (Catalogue.schema model).properties)
    (h_nested : property.nested = some (wrapper, inner)) {v w : Value SampleModel}
    (h_v : a.field? property.index = some v) (h_w : b.field? property.index = some w)
    (h_both : ∀ c d, wrapper.project v = some c → wrapper.project w = some d →
      ((c.deltaTo inner d).hasAnyDeltas = true ↔ c ≠ d)) :
    (a.deltaTo model b).differs property = true ↔ v ≠ w := by
  have h_v_fits := h.previous_fits_field h_property h_v
  have h_w_fits := h.current_fits_field h_property h_w
  rw [Schema.type_of_nested h_property h_nested] at h_v_fits h_w_fits
  have h_previous : projectSide property wrapper (some a) = wrapper.project v := by
    simp [projectSide, h_v]
  have h_current : projectSide property wrapper (some b) = wrapper.project w := by
    simp [projectSide, h_w]
  have h_delta : (a.deltaTo model b).nestedDelta property wrapper inner =
      ⟨inner, wrapper.project v, wrapper.project w⟩ := by
    rw [nestedDelta, Value.deltaTo, h_previous, h_current]
  have h_exact := h.previousExact.nestedDelta property wrapper inner
  rw [differs_nested _ h_nested, Ne, ← Wrapper.project_eq_iff h_v_fits h_w_fits]
  rw [h_delta] at h_exact ⊢
  have h_apart := (toldApart_iff.mp h.apart property h_property wrapper inner h_nested).1
  rw [h_previous, h_current] at h_apart
  -- A model that only one side has differs from nothing by what `ToldApart` says.
  cases h_c : wrapper.project v with
  | none =>
    cases h_d : wrapper.project w with
    | none => simp [hasAnyDeltas_of_absent, isAbsent]
    | some d =>
      rw [h_c, h_d] at h_exact h_apart
      have h_leaf := h_apart d (.inr ⟨rfl, rfl⟩)
      exact iff_of_true (hasAnyDeltas_of_hasOwnLeaf h_exact h_leaf (.inr ⟨rfl, rfl⟩))
        (Option.some_ne_none d).symm
  | some c =>
    cases h_d : wrapper.project w with
    | none =>
      rw [h_c, h_d] at h_exact h_apart
      have h_leaf := h_apart c (.inl ⟨rfl, rfl⟩)
      exact iff_of_true (hasAnyDeltas_of_hasOwnLeaf h_exact h_leaf (.inl ⟨rfl, rfl⟩))
        (Option.some_ne_none c)
    | some d =>
      rw [Option.some.injEq]
      exact h_both c d h_c h_d

theorem hasAnyDeltas_iff_ne (h : Comparable model a b) :
    (a.deltaTo model b).hasAnyDeltas = true ↔ a ≠ b := by
  generalize h_delta : a.deltaTo model b = delta
  induction delta using nestedInduction generalizing model a b with
  | absent delta h_absent =>
    subst h_delta
    cases h_absent
  | present delta h_present ih =>
    subst h_delta
    -- Each property differs exactly if the field does.
    have h_differs : ∀ property ∈ (Catalogue.schema model).properties,
        ((a.deltaTo model b).differs property = true ↔
          a.field? property.index ≠ b.field? property.index) := by
      intro property h_property
      obtain ⟨v, h_v, -⟩ := Value.exists_field? h.previous_fits h_property
      obtain ⟨w, h_w, -⟩ := Value.exists_field? h.current_fits h_property
      rw [h_v, h_w, Ne, Option.some.injEq]
      cases h_nested : property.nested with
      | none => exact h.differs_plain_iff h_property h_nested h_v h_w
      | some link =>
        obtain ⟨wrapper, inner⟩ := link
        refine h.differs_nested_iff h_property h_nested h_v h_w fun c d h_c h_d => ?_
        have h_inner : c.deltaTo inner d =
            (a.deltaTo model b).nestedDelta property wrapper inner := by
          simp [Value.deltaTo, nestedDelta, projectSide, h_v, h_w, h_c, h_d]
        rw [h_inner]
        exact ih property wrapper inner (h.inside h_property h_nested h_v h_w h_c h_d) h_inner
    rw [hasAnyDeltas_of_present h_present, List.any_eq_true]
    constructor
    · rintro ⟨property, h_property, h_any⟩ rfl
      exact (h_differs property h_property).mp h_any rfl
    · intro h_ne
      by_contra h_none
      refine h_ne (Value.eq_of_properties h.tracked h.previous_fits h.current_fits ?_)
      intro property h_property
      by_contra h_field
      exact h_none ⟨property, h_property, (h_differs property h_property).mpr h_field⟩

end Comparable

/-- The delta of two values of a sample model with tracked fields only holds a difference exactly
    if the values are not equal, if they are told apart wherever one of them lacks a nested
    model. -/
theorem hasAnyDeltas_eq_not_same {model : SampleModel}
    (h_tracked : (Catalogue.schema model).fullyTracked = true) (a b : ModelValue model)
    (h_apart : ToldApart model a.value b.value) :
    (a.value.deltaTo model b.value).hasAnyDeltas = !a.value.same b.value := by
  have h_iff := Comparable.hasAnyDeltas_iff_ne ⟨h_tracked, a.fits, b.fits, h_apart⟩
  rw [Ne, ← Value.same_iff a.isExact, Bool.not_eq_true] at h_iff
  rw [Bool.eq_iff_iff, h_iff, Bool.not_eq_true']

theorem hasAnyDeltas_eq_not_same_longer :
    let last : Value SampleModel := .record .node [.integer 3, .absent]
    let shorter : ModelValue SampleModel.node :=
      ⟨.record .node [.integer 1, .present (.boxed (.record .node [.integer 2, .absent]))],
        by decide⟩
    let longer : ModelValue SampleModel.node :=
      ⟨.record .node [.integer 1, .present (.boxed (.record .node [.integer 2,
        .present (.boxed last)]))], by decide⟩
    (Catalogue.schema SampleModel.node).fullyTracked = true ∧
      ToldApart SampleModel.node shorter.value longer.value ∧
      (shorter.value.deltaTo .node longer.value).hasAnyDeltas =
        !shorter.value.same longer.value := by
  intro last shorter longer
  have h_leaf : HasOwnLeaf SampleModel.node last := by
    refine ⟨"value", fun h_eq => ?_⟩
    have h_values : some (ErasedValue.mk (.integer .i32) (.integer 3)) =
        some (ErasedValue.mk (.integer .i32) (.integer 0)) := h_eq
    cases h_values
  -- The rest of a chain is its only nested property.
  have h_next : ∀ property ∈ (Catalogue.schema SampleModel.node).properties,
      ∀ link ∈ property.nested, property.index = 1 ∧ link = (.optionalBoxed, .node) := by
    decide
  have h_rest : ToldApart SampleModel.node (.record .node [.integer 2, .absent])
      (.record .node [.integer 2, .present (.boxed last)]) := by
    refine toldApart_iff.mpr fun property h_property wrapper inner h_nested => ?_
    obtain ⟨h_index, ⟨⟩⟩ := h_next property h_property _ h_nested
    simp [projectSide, Value.field?, Wrapper.project, OnlyOneHas, h_index, h_leaf]
  have h_apart : ToldApart SampleModel.node shorter.value longer.value := by
    refine toldApart_iff.mpr fun property h_property wrapper inner h_nested => ?_
    obtain ⟨h_index, ⟨⟩⟩ := h_next property h_property _ h_nested
    simp [shorter, longer, projectSide, Value.field?, Wrapper.project, OnlyOneHas, h_index, h_rest]
  have h_tracked : (Catalogue.schema SampleModel.node).fullyTracked = true := by decide
  exact ⟨h_tracked, h_apart, hasAnyDeltas_eq_not_same h_tracked shorter longer h_apart⟩

end ModelDelta
end FieldDelta
