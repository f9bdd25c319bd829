import FieldDelta.Description

/-! # Descriptors before assembly

A candidate is refused, or its declaration is described.  It has no descriptor exactly if it has
an error, and everything that is found about it names its type.  The properties of a descriptor
are those of fields of the declaration, and they refer to no node yet: only assembly links them.
-/

namespace FieldDelta

/-! ## Links taken away -/

/-- A property that refers to no node. -/
def Property.unlinked (property : Property) : Property :=
  { property with nested := none }

/-- A descriptor none of whose properties refers to a node. -/
def Descriptor.unlinked (d : Descriptor) : Descriptor :=
  { d with properties := d.properties.map Property.unlinked, nestedReferences := [] }

/-- A descriptor as it is before assembly: nothing is linked yet. -/
def Descriptor.IsUnlinked (d : Descriptor) : Prop :=
  d.nestedReferences = [] ∧ ∀ property ∈ d.properties, property.nested = none

instance (d : Descriptor) : Decidable d.IsUnlinked :=
  inferInstanceAs (Decidable (_ ∧ _))

theorem Descriptor.IsUnlinked.unlinked_eq {d : Descriptor} (h_unlinked : d.IsUnlinked) :
    d.unlinked = d := by
  obtain ⟨h_references, h_properties⟩ := h_unlinked
  have h_map : d.properties.map Property.unlinked = d.properties := by
    refine (List.map_congr_left fun property h_property => ?_).trans (List.map_id _)
    simp [Property.unlinked, ← h_properties property h_property]
  unfold Descriptor.unlinked
  rw [h_map, ← h_references]

/-! ## What describing a candidate comes to -/

variable {candidate : Candidate} {d : Descriptor}

/-- A candidate is refused for one error, or its declaration is described. -/
theorem describe_cases (candidate : Candidate) :
    (∃ problem, problem.severity = .error ∧
      describe candidate = .ofProblems candidate.identity none [problem]) ∨
    ∃ decl fields, Syntax.parseItem? candidate.item = some (.struct decl fields) ∧
      describe candidate =
        .ofProblems candidate.identity (some (describeStruct candidate decl fields).1)
          (describeStruct candidate decl fields).2 := by
  unfold describe
  split
  · exact .inl ⟨_, rfl, rfl⟩
  split
  next decl fields h_parsed =>
    split
    · exact .inr ⟨decl, fields, h_parsed, rfl⟩
    · exact .inl ⟨_, rfl, rfl⟩
  next => exact .inl ⟨_, rfl, rfl⟩

theorem describe_eq_ofProblems (h_described : (describe candidate).descriptor = some d) :
    ∃ decl fields, Syntax.parseItem? candidate.item = some (.struct decl fields) ∧
      describe candidate =
        .ofProblems candidate.identity (some (describeStruct candidate decl fields).1)
          (describeStruct candidate decl fields).2 := by
  rcases describe_cases candidate with ⟨problem, h_error, h_outcome⟩ | h_struct
  · simp [h_outcome, Outcome.ofProblems] at h_described
  · exact h_struct

theorem describe_eq_some (h_described : (describe candidate).descriptor = some d) :
    ∃ decl fields, Syntax.parseItem? candidate.item = some (.struct decl fields) ∧
      (describeStruct candidate decl fields).1 = d := by
  obtain ⟨decl, fields, h_parsed, h_outcome⟩ := describe_eq_ofProblems h_described
  refine ⟨decl, fields, h_parsed, ?_⟩
  rw [h_outcome, Outcome.ofProblems] at h_described
  dsimp only at h_described
  split at h_described
  · cases h_described
  · exact Option.some.inj h_described

theorem identity_of_describe (h_described : (describe candidate).descriptor = some d) :
    d.identity = candidate.identity := by
  obtain ⟨decl, fields, -, rfl⟩ := describe_eq_some h_described
  rfl

/-- The diagnostics of an outcome are errors where its problems are. -/
theorem exists_isError_ofProblems {identity : TypeIdentity} {descriptor : Option Descriptor}
    {problems : List Problem} :
    (∃ found ∈ (Outcome.ofProblems identity descriptor problems).diagnostics,
      found.isError = true) ↔ ∃ problem ∈ problems, problem.severity = .error := by
  constructor
  · rintro ⟨found, h_found, h_error⟩
    obtain ⟨problem, h_problem, rfl⟩ := List.mem_map.mp h_found
    exact ⟨problem, h_problem, beq_iff_eq.mp h_error⟩
  · rintro ⟨problem, h_problem, h_error⟩
    exact ⟨_, List.mem_map.mpr ⟨problem, h_problem, rfl⟩, beq_iff_eq.mpr h_error⟩

/-- A candidate fails to be described exactly if it has an error. -/
theorem descriptor_eq_none_iff :
    (describe candidate).descriptor = none ↔
      ∃ found ∈ (describe candidate).diagnostics, found.isError = true := by
  rcases describe_cases candidate with
    ⟨problem, h_error, h_outcome⟩ | ⟨decl, fields, -, h_outcome⟩
  all_goals
    rw [h_outcome, exists_isError_ofProblems]
    simp [Outcome.ofProblems]
  exact h_error

/-- Whatever is found while a candidate is described is a problem of its type. -/
theorem exists_problem_of_mem_diagnostics {found : Diagnostic}
    (h_found : found ∈ (describe candidate).diagnostics) :
    ∃ problem : Problem, problem.diagnostic candidate.identity = found := by
  rcases describe_cases candidate with
    ⟨problem, -, h_outcome⟩ | ⟨decl, fields, -, h_outcome⟩
  all_goals
    rw [h_outcome] at h_found
    obtain ⟨problem, -, rfl⟩ := List.mem_map.mp h_found
    exact ⟨problem, rfl⟩

/-! ## Where properties come from -/

/-- The property is that of a field written with the given type.  The fields are numbered from
    `index` on. -/
def Property.IsReadFrom (property : Property) (resolver : Resolver) (index : Nat)
    (fields : List Syntax.Field) (type : Syntax.Phrase) : Prop :=
  ∃ offset field, fields[offset]? = some field ∧ field.type = type ∧
    property.field = fieldAccess (index + offset) field ∧
    resolver.declaredType type = .ok property.type

theorem Property.IsReadFrom.cons {property : Property} {resolver : Resolver} {index : Nat}
    {first : Syntax.Field} {rest : List Syntax.Field} {type : Syntax.Phrase}
    (h_rest : property.IsReadFrom resolver (index + 1) rest type) :
    property.IsReadFrom resolver index (first :: rest) type := by
  obtain ⟨offset, field, h_field, h_written, h_access, h_type⟩ := h_rest
  refine ⟨offset + 1, field, h_field, h_written, ?_, h_type⟩
  rw [h_access, Nat.add_assoc, Nat.add_comm 1]

theorem exists_isReadFrom_of_mem_describeFields {resolver : Resolver} {index : Nat}
    {taken : List (String × String)} {fields : List Syntax.Field} {property : Property}
    (h_property : property ∈ (describeFields resolver index taken fields).1) :
    ∃ type, property.IsReadFrom resolver index fields type := by
  fun_induction describeFields resolver index taken fields
  case case1 => cases h_property
  -- Where the first field has no property, the property is one of the rest.
  case case2 h_rest ih | case3 h_rest ih | case5 h_rest _ _ ih =>
    rw [h_rest] at ih
    exact (ih h_property).imp fun _ => .cons
  case case4 h_rest type h_type ih =>
    rw [h_rest] at ih
    rcases List.mem_cons.mp h_property with rfl | h_property
    · exact ⟨_, 0, _, rfl, rfl, rfl, h_type⟩
    · exact (ih h_property).imp fun _ => .cons

/-- The fields of the candidate's declaration. -/
def Candidate.fields (candidate : Candidate) : List Syntax.Field :=
  match Syntax.parseItem? candidate.item with
  | some (.struct _ fields) => fields.toList
  | _ => []

/-- The declaration of the candidate has a field with the property, written with the type. -/
def Candidate.Declares (candidate : Candidate) (property : Property) (type : Syntax.Phrase) :
    Prop :=
  property.IsReadFrom candidate.resolver 0 candidate.fields type

theorem exists_declares_of_describe (h_described : (describe candidate).descriptor = some d)
    {property : Property} (h_property : property ∈ d.properties) :
    ∃ type, candidate.Declares property type := by
  obtain ⟨decl, fields, h_parsed, rfl⟩ := describe_eq_some h_described
  have h_fields : candidate.fields = fields.toList := by rw [Candidate.fields, h_parsed]
  unfold Candidate.Declares
  rw [h_fields]
  exact exists_isReadFrom_of_mem_describeFields h_property

/-! ## Described types are unlinked -/

theorem nested_describeFields (resolver : Resolver) (index : Nat)
    (taken : List (String × String)) (fields : List Syntax.Field) :
    ∀ property ∈ (describeFields resolver index taken fields).1, property.nested = none := by
  fun_induction describeFields resolver index taken fields
  case case1 => simp
  case case2 h_rest ih => rwa [h_rest] at ih
  case case3 h_rest ih => rwa [h_rest] at ih
  -- The one case in which a property is added.
  case case4 h_rest type h_type ih =>
    rw [h_rest] at ih
    exact List.forall_mem_cons.mpr ⟨rfl, ih⟩
  case case5 h_rest unresolvable h_type ih => rwa [h_rest] at ih

theorem isUnlinked_describeStruct (candidate : Candidate) (decl : Syntax.Declaration)
    (fields : Syntax.Fields) : (describeStruct candidate decl fields).1.IsUnlinked :=
  ⟨rfl, nested_describeFields candidate.resolver 0 [] fields.toList⟩

/-- A descriptor that has just been described is as assembly expects it. -/
theorem isUnlinked_of_describe (h_described : (describe candidate).descriptor = some d) :
    d.IsUnlinked := by
  obtain ⟨decl, fields, -, rfl⟩ := describe_eq_some h_described
  exact isUnlinked_describeStruct candidate decl fields

end FieldDelta
