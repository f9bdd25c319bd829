import FieldDelta.Proofs.Delta.Nesting
import Mathlib.Data.List.Basic

/-! # The views of a delta agree

The four views go through the properties separately.  `ModelDelta.views_agree` shows that they
tell the same:

* all are empty at once;
* the changes are the entries without their declared types;
* the root entries are the first names of the entries, each once.

None of this depends on which values the sides hold.
-/

namespace FieldDelta

/-! ## Listings by key

Pieces of a listing with one key each are put together.  If the keys are distinct, a piece can be
found again by its key. -/

section Keys

variable {α β κ : Type} {key : α → κ} {keyOf : β → κ} {piece : α → List β}

theorem forall_key_ne {a : α} {rest : List α} (h_not_mem : key a ∉ rest.map key)
    (h_keys : ∀ b ∈ rest, ∀ item ∈ piece b, keyOf item = key b) :
    ∀ item ∈ rest.flatMap piece, keyOf item ≠ key a := by
  intro item h_item h_eq
  obtain ⟨b, h_b, h_item⟩ := List.mem_flatMap.mp h_item
  rw [h_keys b h_b item h_item] at h_eq
  exact h_not_mem (h_eq ▸ List.mem_map_of_mem h_b)

variable [DecidableEq κ]

theorem eraseDups_of_forall_eq {a : κ} {keys : List κ} (h_eq : ∀ k ∈ keys, k = a) :
    keys.eraseDups = if keys.isEmpty then [] else [a] := by
  cases keys with
  | nil => rfl
  | cons first rest =>
    rw [List.forall_mem_cons] at h_eq
    have h_rest : (rest.filter fun k => !k == first) = [] := by
      refine List.filter_eq_nil_iff.mpr fun k h_k => ?_
      simp [h_eq.1, h_eq.2 k h_k]
    rw [List.eraseDups_cons, h_rest, h_eq.1]
    rfl

theorem eraseDups_keys {list : List α} (h_nodup : (list.map key).Nodup)
    (h_keys : ∀ a ∈ list, ∀ item ∈ piece a, keyOf item = key a) :
    ((list.flatMap piece).map keyOf).eraseDups =
      list.flatMap fun a => if (piece a).isEmpty then [] else [key a] := by
  induction list with
  | nil => rfl
  | cons a rest ih =>
    rw [List.map_cons, List.nodup_cons] at h_nodup
    rw [List.forall_mem_cons] at h_keys
    have h_first : ∀ k ∈ (piece a).map keyOf, k = key a := by
      intro k h_k
      obtain ⟨item, h_item, rfl⟩ := List.mem_map.mp h_k
      exact h_keys.1 item h_item
    -- No key of the rest is that of the first piece, so erasing it there changes nothing.
    have h_apart : ((rest.flatMap piece).map keyOf).removeAll ((piece a).map keyOf) =
        (rest.flatMap piece).map keyOf := by
      refine List.filter_eq_self.mpr fun k h_k => ?_
      obtain ⟨item, h_item, rfl⟩ := List.mem_map.mp h_k
      have h_not_mem : keyOf item ∉ (piece a).map keyOf := fun h_mem =>
        forall_key_ne h_nodup.1 h_keys.2 item h_item (h_first _ h_mem)
      simpa using h_not_mem
    rw [List.flatMap_cons, List.map_append, List.eraseDups_append, h_apart,
      ih h_nodup.2 h_keys.2, eraseDups_of_forall_eq h_first, List.isEmpty_map, List.flatMap_cons]

theorem filter_key {list : List α} (h_nodup : (list.map key).Nodup)
    (h_keys : ∀ a ∈ list, ∀ item ∈ piece a, keyOf item = key a) {a : α} (h_a : a ∈ list) :
    (list.flatMap piece).filter (fun item => keyOf item = key a) = piece a := by
  induction list with
  | nil => cases h_a
  | cons first rest ih =>
    rw [List.map_cons, List.nodup_cons] at h_nodup
    rw [List.forall_mem_cons] at h_keys
    rw [List.flatMap_cons, List.filter_append]
    rcases List.mem_cons.mp h_a with rfl | h_rest
    · have h_kept : (piece a).filter (fun item => keyOf item = key a) = piece a :=
        List.filter_eq_self.mpr fun item h_item => by simp [h_keys.1 item h_item]
      have h_others : (rest.flatMap piece).filter (fun item => keyOf item = key a) = [] :=
        List.filter_eq_nil_iff.mpr fun item h_item => by
          simp [forall_key_ne h_nodup.1 h_keys.2 item h_item]
      rw [h_kept, h_others, List.append_nil]
    · have h_ne : key first ≠ key a := fun h_eq =>
        h_nodup.1 (h_eq ▸ List.mem_map_of_mem h_rest)
      have h_dropped : (piece first).filter (fun item => keyOf item = key a) = [] :=
        List.filter_eq_nil_iff.mpr fun item h_item => by simp [h_keys.1 item h_item, h_ne]
      rw [h_dropped, List.nil_append]
      exact ih h_nodup.2 h_keys.2 h_rest

end Keys

/-! ## The specification -/

variable {M : Type}

/-- An entry without the declared type of its property. -/
def DeltaInfo.toChange (info : DeltaInfo M) : PropertyChange M where
  path := info.path
  previous := info.previous
  current := info.current

namespace ModelDelta

/-- The value of a nested property on one side, seen through its wrapper, as an option of the
    model. -/
def erasedSide (property : ModelProperty M) (wrapper : Wrapper) (model : M)
    (side : Option (Value M)) : ErasedValue M where
  type := .option (.model model)
  value := .ofOption (side.bind fun value => (value.field? property.index).bind wrapper.project)

variable [Catalogue M] [DecidableEq M]

/-- A root entry is that of a property: the one entry under the name of a plain property, or the
    two models of a nested one. -/
def IsRootEntry (delta : ModelDelta M) (property : ModelProperty M) (root : DeltaInfo M) : Prop :=
  root.path = property.name ∧
    match property.nested with
    | none => delta.allDeltas.filter (fun info => firstSegment info.path = property.name) = [root]
    | some (wrapper, model) =>
      root.previous = erasedSide property wrapper model delta.previous ∧
        root.current = erasedSide property wrapper model delta.current

/-- The views of a delta tell the same. -/
structure ViewsAgree (delta : ModelDelta M) : Prop where
  any_iff_all : delta.hasAnyDeltas = true ↔ delta.allDeltas ≠ []
  all_iff_deltas : delta.allDeltas ≠ [] ↔ delta.deltas ≠ []
  deltas_iff_root : delta.deltas ≠ [] ↔ delta.rootDeltas ≠ []
  deltas_eq : delta.deltas = delta.allDeltas.map DeltaInfo.toChange
  root_paths : delta.rootDeltas.map (·.path) =
    (delta.allDeltas.map fun info => firstSegment info.path).eraseDups
  root_entries : ∀ root ∈ delta.rootDeltas, ∃ property ∈ delta.properties,
    delta.IsRootEntry property root
  tracker_any : DeltaTracker.hasAnyDeltas delta = delta.hasAnyDeltas
  tracker_all : DeltaTracker.allDeltas delta = delta.allDeltas
  hasDelta_eq : HasDelta.hasDelta delta = delta.hasAnyDeltas

/-! ## All views are empty at once -/

theorem changedInfo_ne_nil (delta : ModelDelta M) (property : ModelProperty M) :
    delta.changedInfo property ≠ [] ↔ (delta.propertyDelta property).hasChanged = true := by
  unfold changedInfo
  split <;> simp_all

theorem hasAnyDeltas_iff (delta : ModelDelta M) :
    delta.hasAnyDeltas = true ↔ delta.allDeltas ≠ [] := by
  induction delta using nestedInduction with
  | absent delta h_absent =>
    simp [hasAnyDeltas_of_absent h_absent, allDeltas_of_absent h_absent]
  | present delta h_present ih =>
    -- One property at a time; a nested one by the induction hypothesis.
    have h_property (property : ModelProperty M) :
        delta.differs property = true ↔ delta.leafInfos property ≠ [] := by
      cases h_nested : property.nested with
      | none =>
        rw [differs_plain delta h_nested, leafInfos_plain delta h_nested]
        exact (changedInfo_ne_nil delta property).symm
      | some link =>
        obtain ⟨wrapper, model⟩ := link
        rw [differs_nested delta h_nested, leafInfos_nested delta h_nested]
        simpa using ih property wrapper model
    rw [hasAnyDeltas_of_present h_present, allDeltas_of_present h_present, List.any_eq_true,
      Ne, List.flatMap_eq_nil_iff]
    simp [h_property]

/-! ## Changes -/

theorem deltas_eq_map (delta : ModelDelta M) :
    delta.deltas = delta.allDeltas.map DeltaInfo.toChange := by
  induction delta using nestedInduction with
  | absent delta h_absent => rw [deltas_of_absent h_absent, allDeltas_of_absent h_absent]; rfl
  | present delta h_present ih =>
    rw [deltas_of_present h_present, allDeltas_of_present h_present, List.map_flatMap]
    refine List.flatMap_congr fun property _ => ?_
    cases h_nested : property.nested with
    | none =>
      rw [leafChanges_plain delta h_nested, leafInfos_plain delta h_nested, changedProperty,
        changedInfo]
      split <;> rfl
    | some link =>
      obtain ⟨wrapper, model⟩ := link
      rw [leafChanges_nested delta h_nested, leafInfos_nested delta h_nested, ih, List.map_map,
        List.map_map]
      rfl

/-! ## Root entries -/

theorem map_path_rootInfos (delta : ModelDelta M) (property : ModelProperty M) :
    (delta.rootInfos property).map (·.path) =
      if (delta.leafInfos property).isEmpty then [] else [property.name] := by
  cases h_nested : property.nested with
  | none =>
    rw [rootInfos_plain delta h_nested, leafInfos_plain delta h_nested, changedInfo]
    split <;> rfl
  | some link =>
    obtain ⟨wrapper, model⟩ := link
    have h_any := hasAnyDeltas_iff (delta.nestedDelta property wrapper model)
    rw [rootInfos_nested delta h_nested, leafInfos_nested delta h_nested, List.isEmpty_map]
    by_cases h_differs : (delta.nestedDelta property wrapper model).hasAnyDeltas = true
    · have h_some := h_any.mp h_differs
      simp [h_differs, h_some, nestedInfo]
    · have h_none := not_not.mp (mt h_any.mpr h_differs)
      simp [h_differs, h_none]

variable [WellNamed M]

theorem firstSegment_of_mem_leafInfos {delta : ModelDelta M} :
    ∀ property ∈ delta.properties, ∀ info ∈ delta.leafInfos property,
      firstSegment info.path = property.name := by
  intro property h_property info h_info
  obtain ⟨rest, h_segments⟩ := exists_segments_of_mem_leafInfos h_property h_info
  simp [firstSegment, h_segments]

theorem map_path_rootDeltas (delta : ModelDelta M) : delta.rootDeltas.map (·.path) =
    (delta.allDeltas.map fun info => firstSegment info.path).eraseDups := by
  by_cases h_absent : delta.isAbsent = true
  · rw [rootDeltas_of_absent h_absent, allDeltas_of_absent h_absent]
    rfl
  · rw [rootDeltas_of_present h_absent, allDeltas_of_present h_absent, List.map_flatMap,
      eraseDups_keys (nodup_names delta) firstSegment_of_mem_leafInfos]
    exact List.flatMap_congr fun property _ => map_path_rootInfos delta property

theorem isRootEntry_of_mem_rootInfos {delta : ModelDelta M} (h_present : ¬ delta.isAbsent = true)
    {property : ModelProperty M} (h_property : property ∈ delta.properties) {root : DeltaInfo M}
    (h_root : root ∈ delta.rootInfos property) : delta.IsRootEntry property root := by
  cases h_nested : property.nested with
  | none =>
    rw [rootInfos_plain delta h_nested] at h_root
    obtain ⟨h_changed, rfl⟩ := delta.mem_changedInfo.mp h_root
    refine ⟨rfl, ?_⟩
    rw [h_nested, allDeltas_of_present h_present]
    -- The entries under the name of a property are those it contributes.
    show (delta.properties.flatMap delta.leafInfos).filter
      (fun info => firstSegment info.path = property.name) = _
    rw [filter_key (nodup_names delta) firstSegment_of_mem_leafInfos h_property,
      leafInfos_plain delta h_nested, changedInfo, if_pos h_changed]
  | some link =>
    obtain ⟨wrapper, model⟩ := link
    rw [rootInfos_nested delta h_nested] at h_root
    split at h_root
    · obtain rfl := List.mem_singleton.mp h_root
      refine ⟨rfl, ?_⟩
      rw [h_nested]
      exact ⟨rfl, rfl⟩
    · cases h_root

theorem exists_property_of_mem_rootDeltas {delta : ModelDelta M} {root : DeltaInfo M}
    (h_root : root ∈ delta.rootDeltas) :
    ∃ property ∈ delta.properties, delta.IsRootEntry property root := by
  by_cases h_absent : delta.isAbsent = true
  · rw [rootDeltas_of_absent h_absent] at h_root
    cases h_root
  · rw [rootDeltas_of_present h_absent, List.mem_flatMap] at h_root
    obtain ⟨property, h_property, h_root⟩ := h_root
    exact ⟨property, h_property, isRootEntry_of_mem_rootInfos h_absent h_property h_root⟩

theorem rootDeltas_ne_nil (delta : ModelDelta M) :
    delta.rootDeltas ≠ [] ↔ delta.allDeltas ≠ [] := by
  have h_paths := map_path_rootDeltas delta
  cases h_all : delta.allDeltas with
  | nil =>
    rw [h_all] at h_paths
    simpa using h_paths
  | cons info infos =>
    -- The first name of the first entry is the path of a root entry.
    rw [h_all, List.map_cons, List.eraseDups_cons] at h_paths
    refine iff_of_true (fun h_nil => ?_) (List.cons_ne_nil _ _)
    rw [h_nil] at h_paths
    cases h_paths

/-- The views of the comparison of two values of a sample model, of which either may be missing,
    tell the same. -/
theorem views_agree (delta : ModelDelta SampleModel) : delta.ViewsAgree where
  any_iff_all := hasAnyDeltas_iff delta
  all_iff_deltas := by simp [deltas_eq_map]
  deltas_iff_root := by rw [rootDeltas_ne_nil, deltas_eq_map]; simp
  deltas_eq := deltas_eq_map delta
  root_paths := map_path_rootDeltas delta
  root_entries _ h_root := exists_property_of_mem_rootDeltas h_root
  tracker_any := rfl
  tracker_all := rfl
  hasDelta_eq := rfl

end ModelDelta
end FieldDelta
