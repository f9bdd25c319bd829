import FieldDelta.Proofs.Generation.Manifests
import FieldDelta.Proofs.Resolution.BareNames
import FieldDelta.Proofs.Syntax.TypeNames

/-! # Names of types beside a property

A property that is written as the bare name of a tracked type of its own module, alone or inside a
wrapper, refers to that type; the type may be called anything that no crate and no type of the
prelude is called (`Compilation.nested_sibling`).

A declaration hides a name of the prelude, but resolution asks the prelude first: the property is
compared as a whole then, as if the name were that of a foreign type
(`Compilation.nested_foreignSibling`).
-/

namespace FieldDelta

open Syntax

/-! ## Own names -/

theorem TypeIdentity.modulePath_declared {name : String} (h_name : ':' ∉ name.toList)
    (modulePath : String) : (declared modulePath name).modulePath = modulePath := by
  have h_path : (declared modulePath name).path.toList =
      modulePath.toList ++ ':' :: ':' :: name.toList := by
    simp [declared]
  rw [TypeIdentity.modulePath, h_path, Text.splitLast?_append h_name]
  exact String.ofList_toList

/-- A collected type is the one of its own name in its module. -/
theorem declared_of_collect {modulePath label text : String} {candidate : Candidate}
    (h_candidate : candidate ∈ (collect modulePath label text).candidates) :
    candidate.identity = .declared candidate.identity.modulePath candidate.identity.name := by
  unfold collect at h_candidate
  split at h_candidate
  next items h_parse =>
    obtain ⟨modulePath, name, h_name, h_identity⟩ := Candidate.isNamedIn_ofItems items h_candidate
    have h_identifier := (declaredNames_of_parseFile? h_parse name h_name).withoutRaw
    have h_colon : ':' ∉ (Naming.withoutRaw name).toList :=
      h_identifier.not_mem (by decide) (by decide)
    rw [h_identity, TypeIdentity.modulePath_declared h_colon, TypeIdentity.name_declared h_colon]
  next => cases h_candidate

/-- The type is written as the name, alone or inside a wrapper. -/
def IsBareName (name : String) (type : Phrase) : Prop :=
  ∃ path, (unwrap type).2 = [.path path] ∧ path.leading = false ∧
    path.names.map Naming.withoutRaw = [name]

theorem IsBareName.bareName? {name : String} {type : Phrase} (h_type : IsBareName name type)
    (h_keyword : name ∉ Naming.pathKeywords) : bareName? type = some name := by
  obtain ⟨path, h_core, h_leading, h_names⟩ := h_type
  simp [FieldDelta.bareName?, h_core, h_leading, h_names, h_keyword]

namespace Compilation

variable {compilation : Compilation} {node sibling : Descriptor} {property : Property}

/-- A node is the type of its own name in its module, and that name is no keyword. -/
theorem declared_of_mem_nodes (h_node : node ∈ compilation.graph.nodes) :
    node.identity = .declared node.modulePath node.typeName ∧
      node.typeName ∉ Naming.pathKeywords := by
  obtain ⟨candidate, h_candidate, h_identity, -⟩ := exists_candidate_of_mem_nodes h_node
  obtain ⟨source, -, h_candidate⟩ := mem_candidates.mp h_candidate
  rw [Descriptor.modulePath, Descriptor.typeName, ← h_identity]
  exact ⟨declared_of_collect h_candidate, not_mem_pathKeywords_of_collect h_candidate⟩

/-- No two nodes have one identity. -/
theorem get?_of_mem_nodes (h_node : node ∈ compilation.graph.nodes) :
    compilation.graph.get? node.identity = some node := by
  unfold Graph.get?
  obtain ⟨before, behind, h_nodes⟩ := List.append_of_mem h_node
  have h_ordered := nodes_ordered compilation
  rw [h_nodes] at h_ordered ⊢
  have h_before : before.find? (·.identity == node.identity) = none := by
    refine List.find?_eq_none.mpr fun other h_other h_same => ?_
    have h_less := (List.pairwise_append.mp h_ordered).2.2 other h_other node (List.mem_cons_self ..)
    rw [TypeIdentity.Before, beq_iff_eq.mp h_same] at h_less
    exact String.lt_irrefl _ h_less
  rw [List.find?_append, h_before, Option.none_or, List.find?_cons_of_pos (by simp)]

/-- A property that is written as the bare name of a node of its own module, and that no `use` item
    binds, refers to that node, unless the name is taken for something outside the crate: then it
    refers to nothing. -/
theorem nested_sibling (compilation : Compilation) (h_node : node ∈ compilation.graph.nodes)
    (h_deep : node.config.deepTracking = true) (h_sibling : sibling ∈ compilation.graph.nodes)
    (h_module : sibling.modulePath = node.modulePath) (h_property : property ∈ node.properties) :
    (∃ candidate ∈ compilation.candidates, (describe candidate).descriptor = some node.unlinked ∧
      ∃ type, candidate.Declares property type) ∧
    ∀ candidate type, (describe candidate).descriptor = some node.unlinked →
      candidate.Declares property type → IsBareName sibling.typeName type →
      candidate.scope.binding? sibling.typeName = none →
      property.nested =
        if isForeign sibling.typeName then none
        else some { identity := sibling.identity
                    deltaPath := deltaTypePath sibling compilation.options } := by
  constructor
  · obtain ⟨candidate, h_candidate, h_described, h_declares, -⟩ :=
      nested_of_bareName compilation h_node h_property
    exact ⟨candidate, h_candidate, h_described, h_declares⟩
  · rintro candidate type h_described ⟨offset, field, -, -, -, h_type⟩ h_bare h_unbound
    obtain ⟨h_identity, h_keyword⟩ := declared_of_mem_nodes h_sibling
    have h_candidates := Resolver.candidates_of_bareName (h_bare.bareName? h_keyword) h_unbound h_type
    have h_own : candidate.resolver.modulePath = sibling.modulePath := by
      rw [h_module]
      exact congrArg TypeIdentity.modulePath (identity_of_describe h_described).symm
    rw [Graph.nested_of_deep compilation.isUnlinked_of_mem_descriptors h_node h_deep h_property,
      ← graph_eq, h_candidates]
    split
    · rfl
    · rw [Resolver.meanings, h_own, List.map_cons, ← h_identity, List.findSome?_cons,
        Graph.referenceTo?, get?_of_mem_nodes h_sibling]
      rfl

/-- Two tracked types; one is written inside a wrapper in the other. -/
def outcomeCompilation : Compilation where
  sources := [
    { modulePath := "crate"
      path := "lib.rs"
      text := "#[derive(TrackDelta)] struct Outcome;
        #[derive(TrackDelta)] struct O \x7b pub r: Option<Box<Outcome>> \x7d" }]

theorem nested_outcomeCompilation :
    ∃ node ∈ outcomeCompilation.graph.nodes, ∃ sibling ∈ outcomeCompilation.graph.nodes,
      node.config.deepTracking = true ∧ sibling.modulePath = node.modulePath ∧
      sibling.typeName = "Outcome" ∧ ∃ property ∈ node.properties,
        property.nested.map (·.identity) = some ⟨"crate::Outcome"⟩ ∧
        ∀ candidate type, (describe candidate).descriptor = some node.unlinked →
          candidate.Declares property type → IsBareName sibling.typeName type →
          candidate.scope.binding? sibling.typeName = none →
          property.nested =
            if isForeign sibling.typeName then none
            else some { identity := sibling.identity
                        deltaPath := deltaTypePath sibling outcomeCompilation.options } := by
  have h_nodes : ∃ node ∈ outcomeCompilation.graph.nodes,
      ∃ sibling ∈ outcomeCompilation.graph.nodes,
        node.config.deepTracking = true ∧ sibling.modulePath = node.modulePath ∧
        sibling.typeName = "Outcome" ∧ ∃ property ∈ node.properties,
          property.nested.map (·.identity) = some ⟨"crate::Outcome"⟩ := by
    decide +kernel
  obtain ⟨node, h_node, sibling, h_sibling, h_deep, h_module, h_name, property, h_property,
    h_nested⟩ := h_nodes
  exact ⟨node, h_node, sibling, h_sibling, h_deep, h_module, h_name, property, h_property, h_nested,
    (nested_sibling outcomeCompilation h_node h_deep h_sibling h_module h_property).2⟩

/-- A tracked type that is called as one of the prelude. -/
def preludeCompilation : Compilation where
  sources := [
    { modulePath := "crate"
      path := "lib.rs"
      text := "#[derive(TrackDelta)] struct Result; #[derive(TrackDelta)] struct O \x7b pub r: Result \x7d" }]

/-- The property is not linked to the tracked type beside it. -/
theorem nested_foreignSibling :
    ¬ ∀ node ∈ preludeCompilation.graph.nodes, node.config.deepTracking = true →
      ∀ sibling ∈ preludeCompilation.graph.nodes, sibling.modulePath = node.modulePath →
      ∀ property ∈ node.properties, ∀ candidate type,
        (describe candidate).descriptor = some node.unlinked →
        candidate.Declares property type → IsBareName sibling.typeName type →
        candidate.scope.binding? sibling.typeName = none →
        property.nested.map (·.identity) = some sibling.identity := by
  intro h_linked
  have h_nodes : ∃ node ∈ preludeCompilation.graph.nodes, node.config.deepTracking = true ∧
      ∃ sibling ∈ preludeCompilation.graph.nodes, sibling.modulePath = node.modulePath ∧
      ∃ property ∈ node.properties, property.nested = none ∧
      ∃ candidate ∈ preludeCompilation.candidates,
        (describe candidate).descriptor = some node.unlinked ∧
        candidate.scope.binding? sibling.typeName = none ∧
        ∃ field ∈ candidate.fields[0]?, property.field = fieldAccess (0 + 0) field ∧
          candidate.resolver.declaredType field.type = .ok property.type ∧
          bareName? field.type = some sibling.typeName := by
    decide +kernel
  obtain ⟨node, h_node, h_deep, sibling, h_sibling, h_module, property, h_property, h_nested,
    candidate, -, h_described, h_unbound, field, h_field, h_access, h_type, h_bare⟩ := h_nodes
  obtain ⟨path, h_core, h_leading, h_names, -⟩ := bareName?_eq_some h_bare
  have h_identity := h_linked node h_node h_deep sibling h_sibling h_module property h_property
    candidate field.type h_described ⟨0, field, h_field, rfl, h_access, h_type⟩
    ⟨path, h_core, h_leading, h_names⟩ h_unbound
  rw [h_nested] at h_identity
  cases h_identity

end Compilation
end FieldDelta
