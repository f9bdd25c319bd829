import FieldDelta.Output.DeltaUnit
import FieldDelta.Proofs.Layout

/-! # Nesting in delta units

Every line of a delta unit that closes a block closes the innermost one.  So laying out the unit
never leaves a level that it has not entered, and the brackets of its text are balanced if those of
the names and types in it are.

* `Descriptor.IsBalanced` — the condition on names and types;
* `DeltaUnit.closes_steps` — the layout of a unit, from one lemma for each of its groups;
* `DeltaUnit.emit_isWellBracketed` — the unit.
-/

namespace FieldDelta

open Text (IsBalanced)

/-! ## Texts of a unit -/

/-- The texts that a property brings into a unit are balanced. -/
structure Property.IsBalanced (property : Property) : Prop where
  member : Text.IsBalanced property.member
  field : Text.IsBalanced property.field
  quotedName : Text.IsBalanced (Text.quote property.name)
  type : Text.IsBalanced property.type.spelled
  deltaPath : ∀ nested, property.nested = some nested → Text.IsBalanced nested.deltaPath

/-- The texts that a node brings into its unit are balanced. -/
structure Descriptor.IsBalanced (node : Descriptor) : Prop where
  path : Text.IsBalanced node.identity.path
  typeName : Text.IsBalanced node.typeName
  generatedName : Text.IsBalanced node.generatedName
  properties : ∀ property ∈ node.properties, property.IsBalanced

namespace DeltaUnit

open Layout

section Texts

variable {context : Context} (h_node : context.node.IsBalanced)
  (h_support : IsBalanced context.support) {property : Property} (h_property : property.IsBalanced)

include h_node in
theorem isBalanced_name : IsBalanced context.name :=
  h_node.generatedName

include h_node in
theorem isBalanced_model : IsBalanced context.model := by
  simp +decide only [IsBalanced, Context.model, toString, Text.due?_append, h_node.typeName.due?]

include h_node in
theorem isBalanced_sideType : IsBalanced context.sideType := by
  have h_model := (isBalanced_model h_node).due?
  simp +decide only [IsBalanced, Context.sideType, toString, Text.due?_append, h_model]

theorem isBalanced_visibility (context : Context) : IsBalanced context.visibility := by
  unfold Context.visibility
  cases context.node.visibility <;> decide

include h_property in
theorem isBalanced_propertyName : IsBalanced property.name :=
  (Text.isBalanced_quote_iff property.name).mp h_property.quotedName

include h_support h_property in
theorem isBalanced_propertyDelta : IsBalanced (context.propertyDelta property) := by
  simp +decide only [IsBalanced, Context.propertyDelta, toString, Text.due?_append,
    h_support.due?, h_property.type.due?]

include h_support h_property in
theorem isBalanced_slotType : IsBalanced (context.slotType property) := by
  unfold Context.slotType
  split
  next nested h_nested =>
    have h_path := (h_property.deltaPath nested h_nested).due?
    simp +decide only [IsBalanced, toString, Text.due?_append, h_path]
  next =>
    have h_delta := (isBalanced_propertyDelta h_support h_property).due?
    simp +decide only [IsBalanced, toString, Text.due?_append, h_delta]

include h_property in
theorem isBalanced_projection {side : String} (h_side : IsBalanced side) :
    IsBalanced (projection side property) := by
  unfold projection
  cases property.type.wrapper <;>
    simp +decide only [IsBalanced, toString, Text.due?_append, h_side.due?, h_property.field.due?]

include h_property in
theorem isBalanced_changeCheck : IsBalanced (changeCheck property) := by
  unfold changeCheck
  split <;> simp +decide only [IsBalanced, toString, Text.due?_append, h_property.member.due?]

theorem isBalanced_iteratorType {item : String} (h_item : IsBalanced item) :
    IsBalanced (iteratorType item) := by
  simp +decide only [IsBalanced, iteratorType, toString, Text.due?_append, h_item.due?]

theorem isBalanced_emptyIterator {item : String} (h_item : IsBalanced item) :
    IsBalanced (emptyIterator item) := by
  simp +decide only [IsBalanced, emptyIterator, toString, Text.due?_append, h_item.due?]

include h_support h_property in
theorem isBalanced_erasedSide {side : String} (h_side : IsBalanced side) :
    IsBalanced (erasedSide context side property) := by
  have h_projection := (isBalanced_projection h_property h_side).due?
  simp +decide only [IsBalanced, erasedSide, toString, Text.due?_append, h_support.due?,
    h_projection]

include h_node in
theorem isBalanced_comparison {method other : String} (h_method : IsBalanced method)
    (h_other : IsBalanced other) : IsBalanced (comparison context method other) := by
  have h_model := (isBalanced_model h_node).due?
  have h_name := (isBalanced_name h_node).due?
  simp +decide only [IsBalanced, comparison, toString, Text.due?_append, h_method.due?,
    h_other.due?, h_model, h_name]

include h_node in
theorem isBalanced_comparisonBody {before after : String} (h_before : IsBalanced before)
    (h_after : IsBalanced after) : IsBalanced (comparisonBody context before after) := by
  have h_name := (isBalanced_name h_node).due?
  simp +decide only [IsBalanced, comparisonBody, toString, Text.due?_append, h_before.due?,
    h_after.due?, h_name]

end Texts

/-! ## Groups of steps -/

section Groups

variable {context : Context} (h_node : context.node.IsBalanced)
  (h_support : IsBalanced context.support) {property : Property} (h_property : property.IsBalanced)

include h_node in
theorem closes_forEach {group : Property → List Step}
    (h_group : ∀ property : Property, property.IsBalanced → Closes [] (group property)) :
    Closes [] (forEach context group) :=
  .flatMap fun property h_mem => h_group property (h_node.properties property h_mem)

theorem closes_absentGuard {result : String} (h_result : IsBalanced result) :
    Closes [] (absentGuard result) := by
  apply Closes.opening ['\x7d'] (Text.due?_ofList rfl)
  apply Closes.line
  · simp +decide only [IsBalanced, toString, Text.due?_append, h_result.due?]
  apply Closes.closing (Text.due?_ofList rfl) .nil

include h_node h_support in
theorem closes_structSteps : Closes [] (structSteps context) := by
  have h_name := (isBalanced_name h_node).due?
  have h_model := (isBalanced_model h_node).due?
  have h_side := (isBalanced_sideType h_node).due?
  have h_visibility := (isBalanced_visibility context).due?
  have h_slots : Closes [] (forEach context fun property =>
      [.line s!"{property.member}: {context.slotType property},"]) := by
    apply closes_forEach h_node
    intro property h_property
    have h_slot := (isBalanced_slotType h_support h_property).due?
    apply Closes.line ?_ .nil
    simp +decide only [IsBalanced, toString, Text.due?_append, h_property.member.due?, h_slot]
  simp only [structSteps, List.cons_append, List.nil_append]
  apply Closes.line
  · simp +decide only [IsBalanced, toString, Text.due?_append, h_node.typeName.due?, h_model]
  apply Closes.line (Text.due?_ofList rfl)
  apply Closes.line (Text.due?_ofList rfl)
  apply Closes.opening ['\x7d']
  · simp +decide only [toString, Text.due?_append, h_name, h_visibility]
  apply Closes.line
  · simp +decide only [IsBalanced, toString, Text.due?_append, h_side]
  apply Closes.line
  · simp +decide only [IsBalanced, toString, Text.due?_append, h_side]
  apply h_slots.append
  apply Closes.closing (Text.due?_ofList rfl) .nil

include h_node in
theorem closes_constructorSteps : Closes [] (constructorSteps context) := by
  have h_name := (isBalanced_name h_node).due?
  have h_side := (isBalanced_sideType h_node).due?
  have h_slots : Closes [] (forEach context fun property =>
      [.line s!"{property.member}: {slotCell}::new(),"]) := by
    apply closes_forEach h_node
    intro property h_property
    apply Closes.line ?_ .nil
    simp +decide only [IsBalanced, toString, Text.due?_append, h_property.member.due?]
  simp only [constructorSteps, List.cons_append, List.nil_append]
  apply Closes.line (Text.due?_ofList rfl)
  apply Closes.opening [')'] (Text.due?_ofList rfl)
  apply Closes.line
  · simp +decide only [IsBalanced, toString, Text.due?_append, h_side]
  apply Closes.line
  · simp +decide only [IsBalanced, toString, Text.due?_append, h_side]
  apply Closes.reopening ['\x7d'] (Text.due?_ofList rfl)
  apply Closes.opening ['\x7d']
  · simp +decide only [toString, Text.due?_append, h_name]
  apply Closes.line (Text.due?_ofList rfl)
  apply Closes.line (Text.due?_ofList rfl)
  apply h_slots.append
  apply Closes.closing (Text.due?_ofList rfl)
  apply Closes.closing (Text.due?_ofList rfl) .nil

include h_node in
theorem closes_sideSteps {side : String} (h_side : IsBalanced side) :
    Closes [] (sideSteps context side) := by
  have h_type := (isBalanced_sideType h_node).due?
  apply Closes.opening ['\x7d']
  · simp +decide only [toString, Text.due?_append, h_side.due?, h_type]
  apply Closes.line
  · simp +decide only [IsBalanced, toString, Text.due?_append, h_side.due?]
  apply Closes.closing (Text.due?_ofList rfl) .nil

include h_support h_property in
theorem closes_valueAccessorSteps : Closes [] (valueAccessorSteps context property) := by
  have h_name := (isBalanced_propertyName h_property).due?
  have h_delta := (isBalanced_propertyDelta h_support h_property).due?
  have h_member := h_property.member.due?
  have h_field := h_property.field.due?
  apply Closes.line
  · simp +decide only [IsBalanced, toString, Text.due?_append, h_name]
  apply Closes.opening ['\x7d']
  · simp +decide only [toString, Text.due?_append, h_member, h_delta]
  apply Closes.opening ['\x7d', ')']
  · simp +decide only [toString, Text.due?_append, h_member]
  apply Closes.opening [')']
  · simp +decide only [toString, Text.due?_append, h_support.due?]
  apply Closes.line
  · simp +decide only [IsBalanced, toString, Text.due?_append, h_field]
  apply Closes.line
  · simp +decide only [IsBalanced, toString, Text.due?_append, h_field]
  apply Closes.closing (Text.due?_ofList rfl)
  apply Closes.closing (Text.due?_ofList rfl)
  apply Closes.closing (Text.due?_ofList rfl) .nil

include h_property in
theorem closes_nestedAccessorSteps {nested : NestedReference}
    (h_path : IsBalanced nested.deltaPath) : Closes [] (nestedAccessorSteps property nested) := by
  have h_name := (isBalanced_propertyName h_property).due?
  have h_member := h_property.member.due?
  have h_sides : IsBalanced "self.previous" ∧ IsBalanced "self.current" := by decide
  have h_previous := isBalanced_projection h_property h_sides.1
  have h_current := isBalanced_projection h_property h_sides.2
  apply Closes.line
  · simp +decide only [IsBalanced, toString, Text.due?_append, h_name]
  apply Closes.opening ['\x7d']
  · simp +decide only [toString, Text.due?_append, h_member, h_path.due?]
  apply Closes.opening ['\x7d', ')']
  · simp +decide only [toString, Text.due?_append, h_member]
  apply Closes.opening [')', ')']
  · simp +decide only [toString, Text.due?_append, h_path.due?]
  apply Closes.line (h_previous.append (Text.due?_ofList rfl))
  apply Closes.line (h_current.append (Text.due?_ofList rfl))
  apply Closes.closing (Text.due?_ofList rfl)
  apply Closes.closing (Text.due?_ofList rfl)
  apply Closes.closing (Text.due?_ofList rfl) .nil

include h_support h_property in
theorem closes_accessorSteps : Closes [] (accessorSteps context property) := by
  unfold accessorSteps
  split
  next nested h_nested =>
    exact closes_nestedAccessorSteps h_property (h_property.deltaPath nested h_nested)
  next => exact closes_valueAccessorSteps h_support h_property

theorem closes_disjunction {checks : List String} (h_checks : ∀ check ∈ checks, IsBalanced check) :
    Closes [] (disjunction checks) := by
  cases checks with
  | nil => exact .line (Text.due?_ofList rfl) .nil
  | cons first rest =>
    obtain ⟨h_first, h_rest⟩ := List.forall_mem_cons.mp h_checks
    have h_lines : ∀ text ∈ rest.map fun check => s!"    || {check}", IsBalanced text := by
      rw [List.forall_mem_map]
      intro check h_mem
      simp +decide only [IsBalanced, toString, Text.due?_append, (h_rest check h_mem).due?]
    apply (closes_absentGuard (Text.due?_ofList rfl)).append
    apply Closes.line h_first
    show Closes [] (rest.map (Step.line ∘ fun check => s!"    || {check}"))
    rw [← List.map_map]
    exact .lines h_lines

include h_node in
theorem closes_anyDeltasSteps : Closes [] (anyDeltasSteps context) := by
  have h_checks : ∀ check ∈ context.properties.map changeCheck, IsBalanced check := by
    rw [List.forall_mem_map]
    exact fun property h_mem => isBalanced_changeCheck (h_node.properties property h_mem)
  apply Closes.line (Text.due?_ofList rfl)
  apply Closes.opening ['\x7d'] (Text.due?_ofList rfl)
  apply (closes_disjunction h_checks).append
  apply Closes.closing (Text.due?_ofList rfl) .nil

include h_support in
theorem closes_selectedDeltaSteps : Closes [] (selectedDeltaSteps context) := by
  apply Closes.line (Text.due?_ofList rfl)
  apply Closes.line (Text.due?_ofList rfl)
  apply Closes.line (Text.due?_ofList rfl)
  apply Closes.line (Text.due?_ofList rfl)
  apply Closes.line (Text.due?_ofList rfl)
  apply Closes.line
  · simp +decide only [IsBalanced, toString, Text.due?_append, h_support.due?]
  apply Closes.opening ['\x7d'] (Text.due?_ofList rfl)
  apply Closes.line
  · simp +decide only [IsBalanced, toString, Text.due?_append, h_support.due?]
  apply Closes.closing (Text.due?_ofList rfl) .nil

include h_property in
theorem closes_chainSteps {adapters : List String}
    (h_adapters : ∀ adapter ∈ adapters, IsBalanced adapter) :
    Closes [] (chainSteps property adapters) := by
  have h_member := h_property.member.due?
  simp only [chainSteps, List.cons_append, List.nil_append]
  apply Closes.opening [')'] (Text.due?_ofList rfl)
  apply Closes.line
  · simp +decide only [IsBalanced, toString, Text.due?_append, h_member]
  apply Closes.indent
  apply (Closes.lines h_adapters).append
  apply Closes.dedent
  apply Closes.closing (Text.due?_ofList rfl) .nil

include h_node h_support in
theorem closes_iteratorSteps {method item : String} {stage : Property → List String}
    (h_method : IsBalanced method) (h_item : IsBalanced item)
    (h_stage : ∀ property : Property, property.IsBalanced →
      ∀ adapter ∈ stage property, IsBalanced adapter) :
    Closes [] (iteratorSteps context method item stage) := by
  have h_type : IsBalanced s!"{context.support}::{item}" := by
    simp +decide only [IsBalanced, toString, Text.due?_append, h_support.due?, h_item.due?]
  simp only [iteratorSteps, List.append_assoc]
  generalize s!"{context.support}::{item}" = type at h_type ⊢
  have h_iterator := (isBalanced_iteratorType h_type).due?
  have h_empty := isBalanced_emptyIterator h_type
  have h_nothing : IsBalanced s!"{boxType}::new({emptyIterator type})" := by
    simp +decide only [IsBalanced, toString, Text.due?_append, h_empty.due?]
  have h_chains : Closes [] (forEach context fun property =>
      chainSteps property (stage property)) := by
    apply closes_forEach h_node
    intro property h_property
    exact closes_chainSteps h_property (h_stage property h_property)
  apply Closes.opening ['\x7d']
  · simp +decide only [toString, Text.due?_append, h_method.due?, h_iterator]
  split
  · apply Closes.line h_nothing
    apply Closes.closing (Text.due?_ofList rfl) .nil
  · apply (closes_absentGuard h_nothing).append
    apply Closes.opening [')'] rfl
    apply Closes.line h_empty
    apply Closes.indent
    apply h_chains.append
    apply Closes.dedent
    apply Closes.closing (Text.due?_ofList rfl)
    apply Closes.closing (Text.due?_ofList rfl) .nil

theorem isBalanced_of_mem_stage {nested plain : Property → List String} {adapter : String}
    (h_nested : ∀ adapter ∈ nested property, IsBalanced adapter)
    (h_plain : ∀ adapter ∈ plain property, IsBalanced adapter)
    (h_mem : adapter ∈ stage nested plain property) : IsBalanced adapter := by
  unfold stage at h_mem
  split at h_mem
  · exact h_nested adapter h_mem
  · exact h_plain adapter h_mem

theorem forall_mem_pair {first second : String} (h_first : IsBalanced first)
    (h_second : IsBalanced second) : ∀ text ∈ [first, second], IsBalanced text := by
  simp [h_first, h_second]

include h_property in
theorem isBalanced_of_mem_plainStage {method : String} (h_method : IsBalanced method) :
    ∀ adapter ∈ plainStage method property, IsBalanced adapter := by
  apply forall_mem_pair (Text.due?_ofList rfl)
  simp +decide only [IsBalanced, toString, Text.due?_append, h_method.due?,
    h_property.quotedName.due?]

include h_node h_support in
theorem closes_allDeltasSteps : Closes [] (allDeltasSteps context) := by
  apply Closes.line (Text.due?_ofList rfl)
  apply closes_iteratorSteps h_node h_support (Text.due?_ofList rfl) (Text.due?_ofList rfl)
  intro property h_property adapter
  apply isBalanced_of_mem_stage ?_ (isBalanced_of_mem_plainStage h_property (Text.due?_ofList rfl))
  apply forall_mem_pair (Text.due?_ofList rfl)
  simp +decide only [IsBalanced, toString, Text.due?_append, h_property.quotedName.due?]

include h_node h_support in
theorem closes_rootDeltasSteps : Closes [] (rootDeltasSteps context) := by
  apply Closes.line (Text.due?_ofList rfl)
  apply closes_iteratorSteps h_node h_support (Text.due?_ofList rfl) (Text.due?_ofList rfl)
  intro property h_property adapter
  have h_sides : IsBalanced "self.previous" ∧ IsBalanced "self.current" := by decide
  have h_before := isBalanced_erasedSide h_support h_property h_sides.1
  have h_after := isBalanced_erasedSide h_support h_property h_sides.2
  apply isBalanced_of_mem_stage ?_ (isBalanced_of_mem_plainStage h_property (Text.due?_ofList rfl))
  apply forall_mem_pair (Text.due?_ofList rfl)
  simp +decide only [IsBalanced, toString, Text.due?_append, h_support.due?,
    h_property.quotedName.due?, h_before.due?, h_after.due?, h_property.type.due?]

include h_node h_support in
theorem closes_deltasSteps : Closes [] (deltasSteps context) := by
  apply Closes.line (Text.due?_ofList rfl)
  apply closes_iteratorSteps h_node h_support (Text.due?_ofList rfl) (Text.due?_ofList rfl)
  intro property h_property adapter
  apply isBalanced_of_mem_stage ?_ (isBalanced_of_mem_plainStage h_property (Text.due?_ofList rfl))
  apply forall_mem_pair (Text.due?_ofList rfl)
  simp +decide only [IsBalanced, toString, Text.due?_append, h_property.quotedName.due?]

/-! ## Items -/

include h_node h_support in
theorem closes_methodSteps : Closes [] (methodSteps context) := by
  have h_name := (isBalanced_name h_node).due?
  have h_accessors : Closes [] (forEach context fun property =>
      .blank :: accessorSteps context property) :=
    closes_forEach h_node fun property h_property =>
      .blank (closes_accessorSteps h_support h_property)
  simp only [methodSteps, List.cons_append, List.nil_append, List.append_assoc]
  apply Closes.opening ['\x7d']
  · simp +decide only [toString, Text.due?_append, h_name]
  apply (closes_constructorSteps h_node).append
  apply Closes.blank
  apply (closes_sideSteps h_node (Text.due?_ofList rfl)).append
  apply Closes.blank
  apply (closes_sideSteps h_node (Text.due?_ofList rfl)).append
  apply h_accessors.append
  apply Closes.blank
  apply (closes_anyDeltasSteps h_node).append
  apply Closes.blank
  apply (closes_selectedDeltaSteps h_support).append
  apply Closes.blank
  apply (closes_allDeltasSteps h_node h_support).append
  apply Closes.blank
  apply (closes_rootDeltasSteps h_node h_support).append
  apply Closes.blank
  apply (closes_deltasSteps h_node h_support).append
  apply Closes.closing (Text.due?_ofList rfl) .nil

include h_node h_support in
theorem closes_traitSteps : Closes [] (traitSteps context) := by
  have h_name := (isBalanced_name h_node).due?
  have h_item : IsBalanced s!"{context.support}::DeltaInfo" := by
    simp +decide only [IsBalanced, toString, Text.due?_append, h_support.due?]
  have h_listing := (isBalanced_iteratorType h_item).due?
  simp only [traitSteps]
  generalize iteratorType s!"{context.support}::DeltaInfo" = listing at h_listing ⊢
  apply Closes.opening ['\x7d']
  · simp +decide only [toString, Text.due?_append, h_support.due?, h_name]
  apply Closes.opening ['\x7d'] (Text.due?_ofList rfl)
  apply Closes.line
  · simp +decide only [IsBalanced, toString, Text.due?_append, h_name]
  apply Closes.closing (Text.due?_ofList rfl)
  apply Closes.blank
  apply Closes.opening ['\x7d']
  · simp +decide only [toString, Text.due?_append, h_listing]
  apply Closes.line
  · simp +decide only [IsBalanced, toString, Text.due?_append, h_name]
  apply Closes.closing (Text.due?_ofList rfl)
  apply Closes.closing (Text.due?_ofList rfl)
  apply Closes.blank
  apply Closes.opening ['\x7d']
  · simp +decide only [toString, Text.due?_append, h_support.due?, h_name]
  apply Closes.opening ['\x7d'] (Text.due?_ofList rfl)
  apply Closes.line
  · simp +decide only [IsBalanced, toString, Text.due?_append, h_name]
  apply Closes.closing (Text.due?_ofList rfl)
  apply Closes.closing (Text.due?_ofList rfl) .nil

include h_node in
theorem closes_extensionSteps : Closes [] (extensionSteps context) := by
  have h_name := (isBalanced_name h_node).due?
  have h_model := (isBalanced_model h_node).due?
  have h_visibility := (isBalanced_visibility context).due?
  have h_extension : IsBalanced (extensionName context) :=
    (isBalanced_name h_node).append (Text.due?_ofList rfl)
  have h_to : IsBalanced (comparison context "delta_to" "current") :=
    isBalanced_comparison h_node (Text.due?_ofList rfl) (Text.due?_ofList rfl)
  have h_from : IsBalanced (comparison context "delta_from" "previous") :=
    isBalanced_comparison h_node (Text.due?_ofList rfl) (Text.due?_ofList rfl)
  simp only [extensionSteps]
  generalize comparison context "delta_to" "current" = toOther at h_to ⊢
  generalize comparison context "delta_from" "previous" = fromOther at h_from ⊢
  apply Closes.line
  · simp +decide only [IsBalanced, toString, Text.due?_append, h_node.typeName.due?, h_model]
  apply Closes.opening ['\x7d']
  · simp +decide only [toString, Text.due?_append, h_visibility, h_extension.due?]
  apply Closes.line (Text.due?_ofList rfl)
  apply Closes.line (h_to.append (Text.due?_ofList rfl))
  apply Closes.blank
  apply Closes.line (Text.due?_ofList rfl)
  apply Closes.line (h_from.append (Text.due?_ofList rfl))
  apply Closes.closing (Text.due?_ofList rfl)
  apply Closes.blank
  apply Closes.opening ['\x7d']
  · simp +decide only [toString, Text.due?_append, h_extension.due?, h_model]
  apply Closes.opening ['\x7d']
  · simp +decide only [toString, Text.due?_append, h_to.due?]
  apply Closes.line (isBalanced_comparisonBody h_node (Text.due?_ofList rfl) (Text.due?_ofList rfl))
  apply Closes.closing (Text.due?_ofList rfl)
  apply Closes.blank
  apply Closes.opening ['\x7d']
  · simp +decide only [toString, Text.due?_append, h_from.due?]
  apply Closes.line (isBalanced_comparisonBody h_node (Text.due?_ofList rfl) (Text.due?_ofList rfl))
  apply Closes.closing (Text.due?_ofList rfl)
  apply Closes.closing (Text.due?_ofList rfl) .nil

end Groups

/-! ## The unit -/

/-- A unit closes all its blocks. -/
theorem closes_steps {node : Descriptor} {options : Options} (h_node : node.IsBalanced)
    (h_support : IsBalanced options.supportPath) : Closes [] (steps node options) := by
  have h_context : (Context.of node options).node.IsBalanced := h_node
  have h_extension : Closes [] (if node.config.convenienceFunctions then
      .blank :: extensionSteps (Context.of node options) else []) := by
    split
    · exact .blank (closes_extensionSteps h_context)
    · exact .nil
  simp only [steps, List.cons_append, List.nil_append, List.append_assoc]
  apply Closes.line
  · simp +decide only [IsBalanced, toString, Text.due?_append, h_node.path.due?]
  apply Closes.blank
  apply (closes_structSteps h_context h_support).append
  apply Closes.blank
  apply (closes_methodSteps h_context h_support).append
  apply Closes.blank
  exact (closes_traitSteps h_context h_support).append h_extension

/-- Laying out a unit never leaves the outermost level and ends there, and the brackets of its
    text are balanced. -/
theorem emit_isWellBracketed {node : Descriptor} {options : Options} (h_node : node.IsBalanced)
    (h_support : IsBalanced options.supportPath) :
    (∀ before step after, steps node options = before ++ step :: after → step.Leaves →
      (Page.run {} before).depth ≠ 0) ∧
    (Page.run {} (steps node options)).depth = 0 ∧ IsBalanced (emit node options).text := by
  have h_steps := closes_steps h_node h_support
  have h_start : depthAfter? ({} : Page).depth (steps node options) = some 0 := h_steps.depthAfter?
  obtain ⟨h_end, h_inside⟩ := Page.depth_run h_start
  refine ⟨h_inside, h_end, ?_⟩
  rw [IsBalanced, emit, due?_render]
  exact h_steps.due?

/-- An order with its total and, compared field by field, its customer. -/
def orderNode : Descriptor where
  identity := ⟨"crate::shop::Order"⟩
  generatedName := "OrderDelta"
  properties := [
    { name := "total", field := "total", member := "total"
      type := { spelled := "(i64, [u8; 2])" } },
    { name := "customer", field := "customer", member := "customer"
      type := { spelled := "super::Customer" }
      nested := some ⟨⟨"crate::shop::Customer"⟩, "crate::shop::deltas::CustomerDelta"⟩ }]

theorem isBalanced_orderNode : orderNode.IsBalanced where
  path := by decide
  typeName := by decide +kernel
  generatedName := by decide
  properties := by
    have h_names : IsBalanced (Text.quote "total") ∧ IsBalanced (Text.quote "customer") := by
      simp only [Text.isBalanced_quote_iff]
      decide
    simp only [orderNode, List.forall_mem_cons, List.not_mem_nil, false_implies, implies_true,
      and_true]
    constructor
    · exact ⟨by decide, by decide, h_names.1, by decide, nofun⟩
    · exact ⟨by decide, by decide, h_names.2, by decide, fun _ h => Option.some.inj h ▸ by decide⟩

theorem emit_isWellBracketed_orderNode :
    orderNode.IsBalanced ∧ IsBalanced ({} : Options).supportPath ∧
      (∀ before step after, steps orderNode {} = before ++ step :: after → step.Leaves →
        (Page.run {} before).depth ≠ 0) ∧
      (Page.run {} (steps orderNode {})).depth = 0 ∧ IsBalanced (emit orderNode {}).text :=
  have h_support : IsBalanced ({} : Options).supportPath := by decide
  ⟨isBalanced_orderNode, h_support, emit_isWellBracketed isBalanced_orderNode h_support⟩

end DeltaUnit
end FieldDelta
