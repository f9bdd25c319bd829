import FieldDelta.Proofs.Generation.ItemNames
import FieldDelta.Proofs.Rehoming.Leaves
import FieldDelta.Proofs.Resolution.BareNames
import FieldDelta.Proofs.Syntax.Equality

/-! # Names captured by generated items

The generated module brings in all that the model's module can see, and the types of properties are
spelled there as the model has them.  An item that the generated module defines itself hides what
is brought in under the same name, so a type whose path begins with that name is *captured*: it
names the generated item and not the type of the model.

* `Phrase.relativeHeads` — the names that the relative paths of a type begin with; rehoming keeps
  them;
* `Compilation.IsWrittenAs` — the type that the model has for a property;
* `Compilation.capturesNothing_iff` — nothing looks for captured names, so there are none exactly
  if no type name with its suffix is used as the name of a type, and where types keep the suffix
  that they have by default, only names in `Delta` and `DeltaExt` can be captured.
-/

namespace FieldDelta

open Syntax

namespace Syntax

/-! ## Relative paths -/

/-- The name that a relative path begins with, without the mark of a raw identifier. -/
def relativeHead? (leading : Bool) (names : List String) : Option String :=
  if leading then none
  else (names.head?.filter (!Naming.pathKeywords.contains ·)).map Naming.withoutRaw

/-- The name that a relative path begins with, if the leaf is one. -/
def Leaf.relativeHead? : Leaf → Option String
  | .path leading names => Syntax.relativeHead? leading names
  | .qualified _ leading names => Syntax.relativeHead? leading names
  | _ => none

/-- The names that the relative paths of a phrase begin with. -/
def Phrase.relativeHeads (phrase : Phrase) : List String :=
  phrase.leaves.filterMap Leaf.relativeHead?

theorem relativeHead?_rehomeNames (owner : String) (leading : Bool) (names : List String) :
    relativeHead? leading (rehomeNames owner leading names) = relativeHead? leading names := by
  cases leading with
  | true => rfl
  | false =>
    cases names with
    | nil => rfl
    | cons first rest =>
      -- An anchored path stays anchored, and any other is left alone.
      by_cases h_anchor : first ∈ ["Self", "self", "super"]
      · simp only [List.mem_cons, List.not_mem_nil, or_false] at h_anchor
        rcases h_anchor with rfl | rfl | rfl <;>
          simp [relativeHead?, rehomeNames, Naming.pathKeywords, Option.filter]
      · simp only [List.mem_cons, List.not_mem_nil, or_false, not_or] at h_anchor
        simp [rehomeNames, h_anchor]

/-- A type has the same relative paths one module deeper. -/
theorem relativeHeads_rehome (owner : String) (phrase : Phrase) :
    (phrase.rehome owner).relativeHeads = phrase.relativeHeads := by
  rw [Phrase.relativeHeads, leaves_rehome, List.filterMap_map]
  refine List.filterMap_congr fun leaf _ => ?_
  cases leaf with
  | path leading names => exact relativeHead?_rehomeNames owner leading names
  | qualified position leading names => exact relativeHead?_rehomeNames owner leading names
  | _ => rfl

end Syntax

namespace Resolver

theorem spelled_of_declaredType {resolver : Resolver} {type : Phrase} {declared : DeclaredType}
    (h_declared : resolver.declaredType type = .ok declared) :
    declared.spelled = spellType (type.rehome resolver.self.name) := by
  rw [declaredType_eq] at h_declared
  unfold rehomeType at h_declared
  cases h_find : type.paths.find? fun path =>
      Naming.moduleDepth resolver.modulePath < climbs path with
  | some path =>
    rw [h_find] at h_declared
    cases h_declared
  | none =>
    rw [h_find] at h_declared
    cases h_resolved : resolver.resolveCore (unwrap type).2 with
    | error unresolvable =>
      rw [h_resolved] at h_declared
      cases h_declared
    | ok resolved =>
      rw [h_resolved] at h_declared
      rw [← Except.ok.inj h_declared]

end Resolver

namespace Compilation

variable {compilation : Compilation} {node : Descriptor} {property : Property} {type : Phrase}

/-! ## Written types -/

/-- The declaration of a node has a property with the given type. -/
def IsWrittenAs (compilation : Compilation) (node : Descriptor) (property : Property)
    (type : Phrase) : Prop :=
  ∃ candidate ∈ compilation.candidates, candidate.identity = node.identity ∧
    (describe candidate).descriptor = some node.unlinked ∧ candidate.Declares property type

theorem exists_isWrittenAs (h_node : node ∈ compilation.graph.nodes)
    (h_property : property ∈ node.properties) :
    ∃ type, compilation.IsWrittenAs node property type := by
  obtain ⟨candidate, h_candidate, h_identity, h_described⟩ := exists_candidate_of_mem_nodes h_node
  have h_unlinked : property.unlinked ∈ node.unlinked.properties := List.mem_map_of_mem h_property
  -- A property is declared as it is before it is linked.
  obtain ⟨type, h_declares⟩ := exists_declares_of_describe h_described h_unlinked
  exact ⟨type, candidate, h_candidate, h_identity, h_described, h_declares⟩

/-- A property is spelled as its type is written, one module deeper. -/
theorem IsWrittenAs.spelled_eq (h_written : compilation.IsWrittenAs node property type) :
    property.type.spelled = spellType (type.rehome node.typeName) := by
  obtain ⟨candidate, -, h_identity, -, offset, field, -, -, -, h_declared⟩ := h_written
  rw [Resolver.spelled_of_declaredType h_declared, Descriptor.typeName, ← h_identity]
  rfl

/-! ## Captured names -/

/-- No relative path in the type of a property, as it is spelled in the generated module, begins
    with the name of an item that is generated there. -/
def CapturesNothing (compilation : Compilation) : Prop :=
  ∀ node ∈ compilation.graph.nodes, ∀ property ∈ node.properties, ∀ type,
    compilation.IsWrittenAs node property type →
    ∀ head ∈ (type.rehome node.typeName).relativeHeads,
      head ∉ compilation.itemNames node.modulePath

/-- The items of a module are named by its tracked types and their suffixes. -/
theorem mem_itemNames_iff {modulePath name : String} :
    name ∈ compilation.itemNames modulePath ↔ ∃ other ∈ compilation.nodesOf modulePath,
      name = other.config.generatedName other.typeName ∨
      other.config.convenienceFunctions = true ∧
        name = other.config.generatedName other.typeName ++ "Ext" := by
  simp only [itemNames, List.mem_flatMap, DeltaUnit.mem_itemNames]
  refine exists_congr fun other => and_congr_right fun h_other => ?_
  rw [generatedName_of_mem_nodes (mem_nodesOf.mp h_other).1]

/-- With the suffix that types have by default, a generated name ends in `Delta` or `DeltaExt`. -/
theorem suffix_of_mem_itemNames {modulePath name : String}
    (h_suffix : ∀ other ∈ compilation.nodesOf modulePath, other.config.suffix = "Delta")
    (h_name : name ∈ compilation.itemNames modulePath) :
    "Delta".toList <:+ name.toList ∨ "DeltaExt".toList <:+ name.toList := by
  obtain ⟨other, h_other, rfl | ⟨-, rfl⟩⟩ := mem_itemNames_iff.mp h_name
  · rw [TrackingConfig.generatedName, h_suffix other h_other, String.toList_append]
    exact .inl (List.suffix_append _ _)
  · rw [TrackingConfig.generatedName, h_suffix other h_other, String.append_assoc,
      String.toList_append]
    exact .inr (List.suffix_append _ _)

/-- Every property is spelled as the model has it, one module deeper, and its relative paths are
    those of the model.  None of them is captured exactly if no relative path in the type of a
    property begins with the name of a tracked type of the same module together with its suffix,
    or with `Ext` behind both where that type has its trait.  Where the types of all modules keep
    the suffix that they have by default, none is captured unless it begins with a name that ends
    in `Delta` or `DeltaExt`. -/
theorem capturesNothing_iff (compilation : Compilation) :
    (∀ node ∈ compilation.graph.nodes, ∀ property ∈ node.properties,
      (∃ type, compilation.IsWrittenAs node property type) ∧
      ∀ type, compilation.IsWrittenAs node property type →
        property.type.spelled = spellType (type.rehome node.typeName) ∧
        (type.rehome node.typeName).relativeHeads = type.relativeHeads) ∧
    (compilation.CapturesNothing ↔
      ∀ node ∈ compilation.graph.nodes, ∀ property ∈ node.properties, ∀ type,
        compilation.IsWrittenAs node property type → ∀ head ∈ type.relativeHeads,
        ∀ other ∈ compilation.nodesOf node.modulePath,
          head ≠ other.config.generatedName other.typeName ∧
          (other.config.convenienceFunctions = true →
            head ≠ other.config.generatedName other.typeName ++ "Ext")) ∧
    ((∀ node ∈ compilation.graph.nodes, node.config.suffix = "Delta") →
      (∀ node ∈ compilation.graph.nodes, ∀ property ∈ node.properties, ∀ type,
        compilation.IsWrittenAs node property type → ∀ head ∈ type.relativeHeads,
          ¬ "Delta".toList <:+ head.toList ∧ ¬ "DeltaExt".toList <:+ head.toList) →
      compilation.CapturesNothing) := by
  refine ⟨fun node h_node property h_property => ⟨exists_isWrittenAs h_node h_property,
    fun type h_written => ⟨h_written.spelled_eq, relativeHeads_rehome _ _⟩⟩, ?_, ?_⟩
  · unfold CapturesNothing
    simp only [relativeHeads_rehome, mem_itemNames_iff, not_exists, not_and, not_or]
  · intro h_suffix h_heads node h_node property h_property type h_written head h_head h_item
    rw [relativeHeads_rehome] at h_head
    obtain ⟨h_delta, h_trait⟩ := h_heads node h_node property h_property type h_written head h_head
    have h_default : ∀ other ∈ compilation.nodesOf node.modulePath,
        other.config.suffix = "Delta" :=
      fun other h_other => h_suffix other (mem_nodesOf.mp h_other).1
    cases suffix_of_mem_itemNames h_default h_item with
    | inl h_ends => exact h_delta h_ends
    | inr h_ends => exact h_trait h_ends

/-- A type next to a tracked one, called like its delta type. -/
def capturingCompilation : Compilation where
  sources := [{
    modulePath := "crate"
    path := "lib.rs"
    text := "pub struct BDelta; #[derive(TrackDelta)] pub struct B;
      #[derive(TrackDelta)] pub struct A { pub x: BDelta }" }]

/-- The property is spelled like the delta type of `B`, and nothing is reported. -/
theorem not_capturesNothing_capturingCompilation :
    capturingCompilation.generate.diagnostics = [] ∧
    capturingCompilation.itemNames "crate" = ["ADelta", "ADeltaExt", "BDelta", "BDeltaExt"] ∧
    (∃ node ∈ capturingCompilation.graph.nodes, ∃ property ∈ node.properties,
      property.type.spelled = "BDelta" ∧
      ∃ type, capturingCompilation.IsWrittenAs node property type ∧
        type.relativeHeads = ["BDelta"]) ∧
    ¬ capturingCompilation.CapturesNothing := by
  have h_names : capturingCompilation.itemNames "crate" =
      ["ADelta", "ADeltaExt", "BDelta", "BDeltaExt"] := by
    decide +kernel
  -- All that makes the type of the field that of the property can be computed.
  have h_written : ∃ node ∈ capturingCompilation.graph.nodes, ∃ property ∈ node.properties,
      ∃ candidate ∈ capturingCompilation.candidates, ∃ field ∈ candidate.fields,
        node.modulePath = "crate" ∧ property.type.spelled = "BDelta" ∧
        candidate.identity = node.identity ∧
        (describe candidate).descriptor = some node.unlinked ∧
        candidate.fields[0]? = some field ∧ property.field = fieldAccess 0 field ∧
        candidate.resolver.declaredType field.type = .ok property.type ∧
        field.type.relativeHeads = ["BDelta"] := by
    decide +kernel
  obtain ⟨node, h_node, property, h_property, candidate, h_candidate, field, -, h_module,
    h_spelled, h_identity, h_described, h_field, h_access, h_declared, h_heads⟩ := h_written
  have h_type : capturingCompilation.IsWrittenAs node property field.type :=
    ⟨candidate, h_candidate, h_identity, h_described, 0, field, h_field, rfl, h_access, h_declared⟩
  refine ⟨by decide +kernel, h_names,
    ⟨node, h_node, property, h_property, h_spelled, field.type, h_type, h_heads⟩, ?_⟩
  intro h_captures
  refine h_captures node h_node property h_property field.type h_type "BDelta" ?_ ?_
  · rw [relativeHeads_rehome, h_heads]
    exact List.mem_singleton_self _
  · rw [h_module, h_names]
    decide

end Compilation
end FieldDelta
