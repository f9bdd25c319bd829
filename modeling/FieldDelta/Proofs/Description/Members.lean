import FieldDelta.Proofs.Description
import FieldDelta.Proofs.Naming
import FieldDelta.Proofs.Syntax.FieldNames
import Mathlib.Data.List.Forall2
import Mathlib.Data.List.Nodup

/-! # The properties of a described type

A field takes part in tracking if it is visible in the crate and not ignored.  Each such field
either becomes a property or is the reason of an error, and the accessors in use are kept apart on
the way.  So where there is a descriptor, its properties are those fields, and no two of its members
or names are the same.

* `Field.IsTracked` — the fields that take part;
* `describeFields_of_noErrors` — the properties of a list of fields without an error;
* `Candidate.describe_isWellFormed` — every outcome is an error or a well-formed descriptor.
-/

namespace FieldDelta

open Syntax

/-! ## Fields that take part -/

/-- A field that is `pub` or `pub(crate)` and carries no argument that excludes it. -/
def Syntax.Field.IsTracked (field : Field) : Prop :=
  (Marker.readField field.attributes).1 = false ∧
    (field.visibility = .pub ∨
      ∃ path, field.visibility = .restricted false path ∧ path.isIdent "crate" = true)

theorem isExposed_iff {visibility : Visibility} :
    isExposed visibility = true ↔ visibility = .pub ∨
      ∃ path, visibility = .restricted false path ∧ path.isIdent "crate" = true := by
  unfold isExposed
  split <;> simp_all

theorem isTracked_iff {field : Field} {ignored : Bool} {issues : List Marker.Issue}
    (h_read : Marker.readField field.attributes = (ignored, issues)) :
    field.IsTracked ↔ ¬ (ignored || !isExposed field.visibility) = true := by
  rw [Field.IsTracked, ← isExposed_iff, h_read]
  cases ignored <;> cases isExposed field.visibility <;> simp

instance (field : Field) : Decidable field.IsTracked :=
  decidable_of_iff _ (isTracked_iff rfl).symm

/-- The fields that take part, each with its index among all fields.  The fields are numbered
    from `index` on. -/
def trackedFields (index : Nat) (fields : List Field) : List (Field × Nat) :=
  (fields.zipIdx index).filter (·.1.IsTracked)

theorem trackedFields_cons_of_isTracked {index : Nat} {field : Field} {rest : List Field}
    (h_tracked : field.IsTracked) :
    trackedFields index (field :: rest) = (field, index) :: trackedFields (index + 1) rest := by
  simp [trackedFields, List.zipIdx_cons, h_tracked]

theorem trackedFields_cons_of_not_isTracked {index : Nat} {field : Field} {rest : List Field}
    (h_tracked : ¬ field.IsTracked) :
    trackedFields index (field :: rest) = trackedFields (index + 1) rest := by
  simp [trackedFields, List.zipIdx_cons, h_tracked]

/-! ## The properties of fields -/

/-- The property is that of the field with the given index. -/
structure Property.IsOf (resolver : Resolver) (found : Field × Nat) (property : Property) :
    Prop where
  field_eq : property.field = fieldAccess found.2 found.1
  name_eq : property.name = Naming.pathSegment property.field
  member_eq : property.member = (accessor property.field).1
  type_eq : resolver.declaredType found.1.type = .ok property.type

/-- The properties are those of the fields that take part, in order.  Their members are pairwise
    different, and none is in use already. -/
structure AreOf (resolver : Resolver) (index : Nat) (taken : List (String × String))
    (fields : List Field) (properties : List Property) : Prop where
  forall₂ : List.Forall₂ (Property.IsOf resolver) (trackedFields index fields) properties
  nodup : (properties.map (·.member)).Nodup
  fresh : ∀ property ∈ properties, property.member ∉ taken.map (·.1)

theorem areOf_describeFields {resolver : Resolver} {index : Nat} {taken : List (String × String)}
    {fields : List Field} (h_problems : ∀ problem ∈ (describeFields resolver index taken fields).2,
      problem.severity ≠ .error) :
    AreOf resolver index taken fields (describeFields resolver index taken fields).1 := by
  fun_induction describeFields resolver index taken fields
  case case1 => exact ⟨.nil, .nil, fun _ h_none => absurd h_none List.not_mem_nil⟩
  case case2 h_read warnings h_left properties problems h_rest ih =>
    -- The field is left out.
    rw [h_rest] at ih
    have h_tracked := mt (isTracked_iff h_read).mp (not_not_intro h_left)
    obtain ⟨h_forall, h_nodup, h_fresh⟩ :=
      ih fun problem h_problem => h_problems problem (List.mem_append_right _ h_problem)
    exact ⟨trackedFields_cons_of_not_isTracked h_tracked ▸ h_forall, h_nodup, h_fresh⟩
  case case3 => exact absurd rfl (h_problems _ (List.mem_append_right _ (.head _)))
  case case4 taken _ _ _ _ h_read _ h_kept access name member _ h_accessor h_free properties
      problems h_rest type h_type ih =>
    rw [h_rest] at ih
    have h_tracked := (isTracked_iff h_read).mpr h_kept
    obtain ⟨h_forall, h_nodup, h_fresh⟩ :=
      ih fun problem h_problem => h_problems problem (List.mem_append_right _ h_problem)
    simp only [List.map_cons, List.mem_cons, not_or] at h_fresh
    -- What follows takes another member than this property, and than those in use before.
    refine ⟨?_, ?_, ?_⟩
    · rw [trackedFields_cons_of_isTracked h_tracked]
      exact .cons ⟨rfl, rfl, by rw [h_accessor], h_type⟩ h_forall
    · refine List.nodup_cons.mpr ⟨fun h_member => ?_, h_nodup⟩
      obtain ⟨property, h_property, h_eq⟩ := List.mem_map.mp h_member
      exact (h_fresh property h_property).1 h_eq
    · refine List.forall_mem_cons.mpr ⟨fun h_taken => ?_, fun property h_property =>
        (h_fresh property h_property).2⟩
      obtain ⟨entry, h_entry, h_eq⟩ := List.mem_map.mp h_taken
      exact absurd (beq_iff_eq.mpr h_eq) (List.find?_eq_none.mp h_free entry h_entry)
  case case5 => exact absurd rfl (h_problems _ (List.mem_append_right _ (.head _)))

/-! ## Well-formed descriptors -/

/-- The name of the property of a field: the field's name without the mark of a raw identifier,
    or the index of a field in a tuple. -/
def propertyName (found : Field × Nat) : String :=
  match found.1.name with
  | some name => Naming.withoutRaw name
  | none => toString found.2

theorem pathSegment_fieldAccess (found : Field × Nat) :
    Naming.pathSegment (fieldAccess found.2 found.1) = propertyName found := by
  unfold propertyName fieldAccess
  cases found.1.name with
  | some name => rfl
  | none => exact Naming.withoutRaw_of_plain (Naming.rawName?_toString found.2)

/-- A descriptor whose properties are those of the given fields that take part. -/
structure Descriptor.IsWellFormed (d : Descriptor) (fields : List Field) : Prop where
  /-- The properties are exactly the fields that take part, in declaration order. -/
  names_eq : d.properties.map (·.name) = (trackedFields 0 fields).map propertyName
  fields_eq : d.properties.map (·.field) =
    (trackedFields 0 fields).map fun found => fieldAccess found.2 found.1
  /-- Members differ even without the marks of raw identifiers. -/
  nodup_members : (d.properties.map fun property => Naming.withoutRaw property.member).Nodup
  /-- No member is that of every delta type, with or without the mark. -/
  unreserved : ∀ property ∈ d.properties, property.member ∉ Naming.reservedMembers ∧
    Naming.withoutRaw property.member ∉ Naming.reservedMembers
  usable : ∀ property ∈ d.properties, Naming.IsUsable property.member
  nodup_names : (d.properties.map (·.name)).Nodup
  unlinked : d.IsUnlinked

/-- A field of a struct that was parsed is accessed by a word or by its index. -/
theorem isAccess_fieldAccess {text : String} {decl : Declaration} {fields : Fields} {field : Field}
    (h_parsed : parseItem? text = some (.struct decl fields)) (h_field : field ∈ fields.toList)
    (index : Nat) : Naming.IsAccess (fieldAccess index field) := by
  unfold fieldAccess
  cases h_name : field.name with
  | none => exact .inr ⟨index, rfl⟩
  | some name =>
    refine .inl (fieldNames_of_parseItem? h_parsed name ?_)
    exact List.mem_flatMap.mpr ⟨field, h_field, by simp [Field.names, h_name]⟩

theorem isAccess_of_mem_trackedFields {candidate : Candidate} {found : Field × Nat}
    (h_found : found ∈ trackedFields 0 candidate.fields) :
    Naming.IsAccess (fieldAccess found.2 found.1) := by
  obtain ⟨h_found, -⟩ := List.mem_filter.mp h_found
  have h_field : found.1 ∈ candidate.fields := List.fst_mem_of_mem_zipIdx h_found
  unfold Candidate.fields at h_field
  split at h_field
  next decl fields h_parsed => exact isAccess_fieldAccess h_parsed h_field found.2
  next => cases h_field

theorem areOf_of_describe {candidate : Candidate} {d : Descriptor}
    (h_described : (describe candidate).descriptor = some d) :
    AreOf candidate.resolver 0 [] candidate.fields d.properties := by
  obtain ⟨decl, fields, h_parsed, h_outcome⟩ := describe_eq_ofProblems h_described
  have h_fields : candidate.fields = fields.toList := by rw [Candidate.fields, h_parsed]
  rw [h_outcome, Outcome.ofProblems] at h_described
  dsimp only at h_described
  split at h_described
  next => cases h_described
  next h_none =>
    rw [← Option.some.inj h_described, h_fields]
    refine areOf_describeFields fun problem h_problem h_error => h_none ?_
    exact List.any_eq_true.mpr
      ⟨problem, List.mem_append_right _ h_problem, beq_iff_eq.mpr h_error⟩

/-- A property is accessed by a word or an index, and its name and member are made from that. -/
theorem AreOf.isAccess {candidate : Candidate} {properties : List Property}
    (h_properties : AreOf candidate.resolver 0 [] candidate.fields properties) :
    ∀ property ∈ properties, Naming.IsAccess property.field ∧
      property.name = Naming.pathSegment property.field ∧
      property.member = (accessor property.field).1 := by
  intro property h_property
  obtain ⟨place, h_place, rfl⟩ := List.mem_iff_getElem.mp h_property
  have h_length := h_properties.forall₂.length_eq
  have h_of := h_properties.forall₂.get (h_length ▸ h_place) h_place
  refine ⟨?_, h_of.name_eq, h_of.member_eq⟩
  have h_access := isAccess_of_mem_trackedFields (List.get_mem _ ⟨place, h_length ▸ h_place⟩)
  rw [← h_of.field_eq] at h_access
  exact h_access

theorem isWellFormed_of_describe {candidate : Candidate} {d : Descriptor}
    (h_described : (describe candidate).descriptor = some d) : d.IsWellFormed candidate.fields := by
  have h_properties := areOf_of_describe h_described
  have h_access := h_properties.isAccess
  have h_usable : ∀ property ∈ d.properties, Naming.IsUsable property.member := by
    intro property h_property
    obtain ⟨h_word, -, h_member⟩ := h_access property h_property
    exact h_member ▸ isUsable_accessor h_word
  refine ⟨?_, ?_, ?_, ?_, h_usable, ?_, isUnlinked_of_describe h_described⟩
  · rw [eq_comm, ← List.forall₂_eq_eq_eq, List.forall₂_map_left_iff, List.forall₂_map_right_iff]
    refine h_properties.forall₂.imp fun found property h_of => ?_
    rw [h_of.name_eq, h_of.field_eq, pathSegment_fieldAccess]
  · rw [eq_comm, ← List.forall₂_eq_eq_eq, List.forall₂_map_left_iff, List.forall₂_map_right_iff]
    exact h_properties.forall₂.imp fun found property h_of => h_of.field_eq.symm
  · -- Usable members that agree without the mark of a raw identifier agree.
    have h_members := h_properties.nodup
    rw [← Function.comp_def, ← List.map_map]
    refine h_members.map_on fun first h_first second h_second => ?_
    obtain ⟨property, h_property, rfl⟩ := List.mem_map.mp h_first
    obtain ⟨property', h_property', rfl⟩ := List.mem_map.mp h_second
    exact (h_usable property h_property).withoutRaw_inj (h_usable property' h_property')
  · intro property h_property
    rw [(h_access property h_property).2.2]
    exact ⟨accessor_not_mem_reservedMembers _, unreserved_accessor _⟩
  · -- Properties with one name would have one member.
    refine List.Nodup.of_map (fun name => (accessor name).1) ?_
    rw [List.map_map]
    refine (List.map_congr_left fun property h_property => ?_) ▸ h_properties.nodup
    obtain ⟨h_word, h_name, h_member⟩ := h_access property h_property
    rw [Function.comp_apply, h_name, h_member]
    exact (accessor_withoutRaw h_word).symm

/-- Describing a candidate gives a descriptor exactly if it finds no error, and a descriptor has
    the properties that its declaration asks for, with names and members that differ and can be
    written. -/
theorem describe_isWellFormed (candidate : Candidate) :
    ((describe candidate).descriptor = none ↔
      ∃ found ∈ (describe candidate).diagnostics, found.isError = true) ∧
    ∀ d, (describe candidate).descriptor = some d → d.IsWellFormed candidate.fields :=
  ⟨descriptor_eq_none_iff, fun _ => isWellFormed_of_describe⟩

end FieldDelta
