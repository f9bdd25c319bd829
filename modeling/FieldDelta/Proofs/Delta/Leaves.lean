import FieldDelta.Proofs.Delta.LeafMap
import FieldDelta.Proofs.Model.Exactness

/-! # The leaves that a delta lists

`ModelDelta.allDeltas` lists the paths at which the leaf maps of the two sides differ, each once,
in the order of the declarations, with the two leaves: `ModelDelta.allDeltas_listsLeaves`.

Three facts carry it, each preserved from the nested deltas to the whole.  What is listed differs,
what differs is listed, and the order is right.  That nothing is listed twice follows from the
order.
-/

namespace FieldDelta

variable {M : Type}

/-- What it is for entries to list the leaves at which two sides differ. -/
structure ListsLeaves [Catalogue M] (model : M) (previous current : Option (Value M))
    (infos : List (DeltaInfo M)) : Prop where
  nodup : (infos.map (·.path)).Nodup
  mem_paths : ∀ path, path ∈ infos.map (·.path) ↔
    leafMap model previous path ≠ leafMap model current path
  previous_eq : ∀ info ∈ infos, leafMap model previous info.path = some info.previous
  current_eq : ∀ info ∈ infos, leafMap model current info.path = some info.current
  ordered : infos.Pairwise fun a b => Precedes model (pathSegments a.path) (pathSegments b.path)
  overwritten : overwrite (leafMap model previous) infos = leafMap model current

namespace ModelDelta

/-! ## Exact sides -/

/-- The previous side holds no numbers of double precision. -/
def PreviousExact (delta : ModelDelta M) : Prop :=
  ∀ value, delta.previous = some value → value.isExact = true

variable {delta : ModelDelta M}

theorem PreviousExact.nestedDelta (h_exact : delta.PreviousExact) (property : ModelProperty M)
    (wrapper : Wrapper) (model : M) : (delta.nestedDelta property wrapper model).PreviousExact := by
  intro inner h_inner
  obtain ⟨value, h_value, h_held⟩ := Option.bind_eq_some_iff.mp h_inner
  obtain ⟨field, h_field, h_project⟩ := Option.bind_eq_some_iff.mp h_held
  exact Wrapper.isExact_project (Value.isExact_field? (h_exact value h_value) h_field) h_project

section Exact

variable [Catalogue M] [ExactCatalogue M]

theorem isExact_type {model : M} {property : ModelProperty M}
    (h_property : property ∈ (Catalogue.schema model).properties) :
    property.type.isExact = true := by
  obtain ⟨⟨field, index⟩, h_mem, rfl⟩ := List.mem_map.mp h_property
  have h_field : field ∈ (Catalogue.schema model).fields :=
    List.fst_mem_of_mem_zipIdx (List.mem_filter.mp h_mem).1
  exact ExactCatalogue.fields_exact model field h_field

theorem PreviousExact.sideValue (h_exact : delta.PreviousExact) {property : ModelProperty M}
    (h_property : property ∈ delta.properties) :
    (sideValue property delta.previous).isExact = true := by
  unfold ModelDelta.sideValue
  -- Either the field was found, or the initial value of its type stands in.
  cases h_held : delta.previous.bind fun value => value.field? property.index with
  | none => exact ValueType.isExact_initial (isExact_type h_property)
  | some field =>
    obtain ⟨value, h_value, h_field⟩ := Option.bind_eq_some_iff.mp h_held
    exact Value.isExact_field? (h_exact value h_value) h_field

theorem hasChanged_iff [DecidableEq M] (h_exact : delta.PreviousExact) {property : ModelProperty M}
    (h_property : property ∈ delta.properties) :
    (delta.propertyDelta property).hasChanged = true ↔
      ModelDelta.sideValue property delta.previous ≠
        ModelDelta.sideValue property delta.current := by
  rw [Ne, ← Value.same_iff (h_exact.sideValue h_property), propertyDelta, PropertyDelta.between,
    Bool.not_eq_true', Bool.not_eq_true]

end Exact

variable [Catalogue M] [WellNamed M]

/-! ## The order of the listing -/

/-- The leaf of one entry precedes that of another in the declarations of the compared model. -/
def InOrder (delta : ModelDelta M) (a b : DeltaInfo M) : Prop :=
  Precedes delta.model (pathSegments a.path) (pathSegments b.path)

theorem pairwise_allDeltas [DecidableEq M] (delta : ModelDelta M) :
    delta.allDeltas.Pairwise delta.InOrder := by
  induction delta using nestedInduction with
  | absent delta h_absent => simp [allDeltas_of_absent h_absent]
  | present delta h_present ih =>
    rw [allDeltas_of_present h_present, List.pairwise_flatMap]
    constructor
    · -- Entries of one property: a single one, or the entries of the nested delta.
      intro property h_property
      have h_plain_name := WellNamed.name_plain delta.model property h_property
      cases h_nested : property.nested with
      | none =>
        rw [leafInfos_plain delta h_nested, changedInfo]
        split <;> simp
      | some link =>
        obtain ⟨wrapper, model⟩ := link
        rw [leafInfos_nested delta h_nested, List.pairwise_map]
        refine (ih property wrapper model).imp fun {a b} h_order => ?_
        show Precedes delta.model (pathSegments (extendPath property.name a.path))
          (pathSegments (extendPath property.name b.path))
        rw [pathSegments_extendPath h_plain_name, pathSegments_extendPath h_plain_name]
        exact .inside h_property h_nested h_order
    · -- Entries of two properties: those of the first one declared come first.
      refine List.pairwise_iff_forall_sublist.mpr fun {first second} h_sublist a h_a b h_b => ?_
      have h_first : first ∈ delta.properties := h_sublist.subset (by simp)
      have h_second : second ∈ delta.properties := h_sublist.subset (by simp)
      obtain ⟨rest_a, h_a⟩ := exists_segments_of_mem_leafInfos h_first h_a
      obtain ⟨rest_b, h_b⟩ := exists_segments_of_mem_leafInfos h_second h_b
      rw [InOrder, h_a, h_b]
      exact .apart rest_a rest_b h_sublist

/-! ## What is listed differs -/

/-- An entry holds the two leaves at its path, and these differ. -/
def Reports (delta : ModelDelta M) (info : DeltaInfo M) : Prop :=
  leafMap delta.model delta.previous info.path = some info.previous ∧
    leafMap delta.model delta.current info.path = some info.current ∧ info.previous ≠ info.current

theorem reports_withPrefix {property : ModelProperty M} (h_property : property ∈ delta.properties)
    {wrapper : Wrapper} {model : M} (h_nested : property.nested = some (wrapper, model))
    {info : DeltaInfo M} (h_reports : (delta.nestedDelta property wrapper model).Reports info) :
    delta.Reports (info.withPrefix property.name) := by
  obtain ⟨h_previous, h_current, h_ne⟩ := h_reports
  refine ⟨?_, ?_, h_ne⟩
  · exact (leafMap_nested h_property h_nested _ _).trans h_previous
  · exact (leafMap_nested h_property h_nested _ _).trans h_current

variable [DecidableEq M] [ExactCatalogue M]

theorem reports_of_mem_changedInfo (h_exact : delta.PreviousExact) {property : ModelProperty M}
    (h_property : property ∈ delta.properties) (h_plain : property.nested = none)
    {info : DeltaInfo M} (h_info : info ∈ delta.changedInfo property) : delta.Reports info := by
  obtain ⟨h_changed, rfl⟩ := delta.mem_changedInfo.mp h_info
  have h_ne := (hasChanged_iff h_exact h_property).mp h_changed
  refine ⟨leafMap_plain h_property h_plain _, leafMap_plain h_property h_plain _, fun h_eq => ?_⟩
  exact h_ne (congrArg ErasedValue.value h_eq)

theorem reports_of_mem_allDeltas (h_exact : delta.PreviousExact) :
    ∀ info ∈ delta.allDeltas, delta.Reports info := by
  induction delta using nestedInduction with
  | absent delta h_absent => simp [allDeltas_of_absent h_absent]
  | present delta h_present ih =>
    intro info h_info
    rw [allDeltas_of_present h_present, List.mem_flatMap] at h_info
    obtain ⟨property, h_property, h_info⟩ := h_info
    cases h_nested : property.nested with
    | none =>
      rw [leafInfos_plain delta h_nested] at h_info
      exact reports_of_mem_changedInfo h_exact h_property h_nested h_info
    | some link =>
      obtain ⟨wrapper, model⟩ := link
      rw [leafInfos_nested delta h_nested, List.mem_map] at h_info
      obtain ⟨inner, h_inner, rfl⟩ := h_info
      have h_reports := ih property wrapper model (h_exact.nestedDelta property wrapper model)
      exact reports_withPrefix h_property h_nested (h_reports inner h_inner)

/-! ## What differs is listed -/

theorem exists_mem_allDeltas (h_exact : delta.PreviousExact) {names : List String}
    (h_differs : leafAt delta.model delta.previous names ≠
      leafAt delta.model delta.current names) :
    ∃ info ∈ delta.allDeltas, pathSegments info.path = names := by
  induction delta using nestedInduction generalizing names with
  | absent delta h_absent =>
    obtain ⟨h_previous, h_current⟩ := isAbsent_iff.mp h_absent
    rw [h_previous, h_current] at h_differs
    exact absurd rfl h_differs
  | present delta h_present ih =>
    rw [allDeltas_of_present h_present]
    -- Names that lead nowhere do so on both sides, so that these are a leaf of both.
    obtain ⟨leaf, h_leaf⟩ : ∃ leaf, leafAt delta.model delta.previous names = some leaf := by
      rw [← Option.ne_none_iff_exists']
      intro h_none
      exact h_differs (h_none.trans ((leafAt_eq_none_iff _ delta.current).mp h_none).symm)
    obtain ⟨property, h_property, rest, rfl, h_end⟩ := exists_property_of_leafAt h_leaf
    have h_plain_name := WellNamed.name_plain delta.model property h_property
    cases h_nested : property.nested with
    | none =>
      obtain rfl := h_end h_nested
      rw [leafAt_plain h_property h_nested, leafAt_plain h_property h_nested] at h_differs
      have h_changed : (delta.propertyDelta property).hasChanged = true :=
        (hasChanged_iff h_exact h_property).mpr fun h_eq => h_differs (by rw [h_eq])
      refine ⟨(delta.propertyDelta property).toDeltaInfo property.name, ?_,
        pathSegments_of_isPlainName h_plain_name⟩
      refine List.mem_flatMap.mpr ⟨property, h_property, ?_⟩
      rw [leafInfos_plain delta h_nested]
      exact delta.mem_changedInfo.mpr ⟨h_changed, rfl⟩
    | some link =>
      obtain ⟨wrapper, model⟩ := link
      rw [leafAt_nested h_property h_nested, leafAt_nested h_property h_nested] at h_differs
      obtain ⟨info, h_info, rfl⟩ :=
        ih property wrapper model (h_exact.nestedDelta property wrapper model) h_differs
      refine ⟨info.withPrefix property.name, ?_, pathSegments_extendPath h_plain_name info.path⟩
      refine List.mem_flatMap.mpr ⟨property, h_property, ?_⟩
      rw [leafInfos_nested delta h_nested]
      exact List.mem_map.mpr ⟨info, h_info, rfl⟩

/-! ## The listing meets its specification -/

theorem listsLeaves_of_previousExact (h_exact : delta.PreviousExact) :
    ListsLeaves delta.model delta.previous delta.current delta.allDeltas := by
  have h_reports := reports_of_mem_allDeltas h_exact
  have h_ordered := pairwise_allDeltas delta
  have h_paths (path : String) : path ∈ delta.allDeltas.map (·.path) ↔
      leafMap delta.model delta.previous path ≠ leafMap delta.model delta.current path := by
    constructor
    · intro h_path
      obtain ⟨info, h_info, rfl⟩ := List.mem_map.mp h_path
      obtain ⟨h_previous, h_current, h_ne⟩ := h_reports info h_info
      rw [h_previous, h_current]
      exact fun h_eq => h_ne (Option.some.inj h_eq)
    · intro h_differs
      obtain ⟨info, h_info, h_segments⟩ := exists_mem_allDeltas h_exact h_differs
      exact List.mem_map.mpr ⟨info, h_info, pathSegments_inj h_segments⟩
  constructor
  case nodup =>
    rw [List.Nodup, List.pairwise_map]
    exact h_ordered.imp fun h_order h_eq => h_order.ne (by rw [h_eq])
  case mem_paths => exact h_paths
  case previous_eq => exact fun info h_info => (h_reports info h_info).1
  case current_eq => exact fun info h_info => (h_reports info h_info).2.1
  case ordered => exact h_ordered
  case overwritten =>
    funext path
    rw [overwrite_eq fun info h_info => (h_reports info h_info).2.1]
    -- At a path that is not listed the two leaf maps agree already.
    by_cases h_path : path ∈ delta.allDeltas.map (·.path)
    · rw [if_pos h_path]
    · rw [if_neg h_path]
      exact not_not.mp fun h_differs => h_path ((h_paths path).mpr h_differs)

/-- All differing leaves of two values of a sample model, of which either may be missing, are
    listed with the leaves of both sides. -/
theorem allDeltas_listsLeaves (model : SampleModel) (previous current : Option (ModelValue model)) :
    ListsLeaves model (previous.map (·.value)) (current.map (·.value))
      (allDeltas ⟨model, previous.map (·.value), current.map (·.value)⟩) := by
  have h_exact : PreviousExact
      ⟨model, previous.map (·.value), current.map (·.value)⟩ := by
    intro value h_value
    obtain ⟨v, -, rfl⟩ := Option.map_eq_some_iff.mp h_value
    exact v.isExact
  exact listsLeaves_of_previousExact h_exact

end ModelDelta
end FieldDelta
