import FieldDelta.Proofs.Generation.Accounting
import FieldDelta.Proofs.Generation.GeneratedNames

/-! # The paths that delta units write

A delta unit reaches its model by `super::` with the name of the type, and the delta types of its
nested properties by absolute paths.  Both are put together from identities, which hold names
without the mark of a raw identifier, and the mark is not put back.  So a type or a module that is
called by a keyword, in a raw form, gives a path that Rust does not take.
`Compilation.isPath_emitted` says when these paths can be taken, part by part.

* `DeltaUnit.Writes` — what stands in a line of a unit;
* `isPath_model_iff`, `isPath_deltaTypePath_iff` — the two kinds of paths.
-/

namespace FieldDelta

open Naming (IsPlainIdentifier IsSegment IsPath OpensPath keywords anchors)
open Syntax (IsItemName)
open Text (joinSegments)

/-! ## Names in paths -/

namespace Syntax.IsItemName

variable {name : String}

theorem isPlainIdentifier_iff (h_name : IsItemName name) :
    IsPlainIdentifier name ↔ name ∉ keywords := by
  have h_suffix := isPlainIdentifier_append_iff h_name ""
  simpa using h_suffix

theorem isSegment_iff (h_name : IsItemName name) : IsSegment name ↔ name ∉ keywords := by
  rw [Naming.isSegment_iff (h_name.isIdentifier.not_mem (by decide) (by decide)),
    h_name.isPlainIdentifier_iff]

theorem not_mem_anchors (h_name : IsItemName name) : name ∉ anchors := by
  have h_all : ∀ anchor ∈ anchors, anchor ∈ Syntax.Lexer.neverRaw := by decide
  exact fun h_anchor => h_name.not_neverRaw (h_all name h_anchor)

end Syntax.IsItemName

/-! ## What a unit writes -/

namespace DeltaUnit

/-- The text stands in a line of the unit of a node. -/
def Writes (node : Descriptor) (options : Options) (text : String) : Prop :=
  ∃ front behind, .line (front ++ text ++ behind) ∈ steps node options

theorem writes_model (node : Descriptor) (options : Options) :
    Writes node options ("super::" ++ node.typeName) := by
  have h_model : (Context.of node options).model = "super::" ++ node.typeName := rfl
  rw [← h_model]
  refine ⟨"previous: " ++ optionType ++ "<&'a ", ">,", ?_⟩
  have h_line : "previous: " ++ optionType ++ "<&'a " ++ (Context.of node options).model ++ ">," =
      s!"previous: {(Context.of node options).sideType}," := by
    simp [Context.sideType, toString, String.append_assoc]
  rw [h_line]
  simp only [steps, List.mem_append]
  exact .inl (.inl (.inl (.inr (by simp [structSteps]))))

theorem writes_deltaPath {node : Descriptor} {property : Property} {nested : NestedReference}
    (h_property : property ∈ node.properties) (h_nested : property.nested = some nested)
    (options : Options) : Writes node options nested.deltaPath := by
  refine ⟨property.member ++ ": " ++ slotCell ++ "<" ++ boxType ++ "<", "<'a>>>,", ?_⟩
  have h_line : property.member ++ ": " ++ slotCell ++ "<" ++ boxType ++ "<" ++ nested.deltaPath ++
      "<'a>>>," = s!"{property.member}: {(Context.of node options).slotType property}," := by
    simp [Context.slotType, h_nested, toString, String.append_assoc]
  rw [h_line]
  simp only [steps, structSteps, forEach, List.mem_append, List.mem_flatMap]
  exact .inl (.inl (.inl (.inr (.inl (.inr ⟨property, h_property, by simp⟩)))))

end DeltaUnit

/-! ## The two kinds of paths -/

theorem isPath_model_iff {name : String} (h_name : IsItemName name) :
    IsPath IsSegment ("super::" ++ name) ↔ name ∉ keywords := by
  have h_super : IsPath IsSegment "super" := .anchored (.climb (.supers 1)) (by decide) nofun
  have h_model : "super::" ++ name = "super" ++ "::" ++ name := rfl
  rw [h_model, Naming.isPath_concat (fun _ => Naming.colon_not_mem_of_isSegment)
    h_name.colon_not_mem (Naming.not_isAnchor_concat h_name.not_mem_anchors _),
    h_name.isSegment_iff]
  exact and_iff_right (.inr h_super)

/-- An accepted name of a deltas module is a segment of a path if it can be written at all, and no
    anchor. -/
theorem deltasModule_of_validate {options : Options} (h_valid : options.validate = .ok ()) :
    ':' ∉ options.deltasModule.toList ∧ options.deltasModule ∉ anchors ∧
      (IsSegment options.deltasModule ↔ IsPlainIdentifier options.deltasModule) := by
  obtain ⟨-, h_module, -⟩ := Options.validate_eq_ok.mp h_valid
  have h_spliceable := isSpliceable_of_isPlainIdentifier h_module
  exact ⟨h_spliceable.1, isSpliceable_not_mem_anchors _ h_spliceable,
    Naming.isSegment_iff (not_mem_of_isPlainIdentifier h_module (by decide +kernel))⟩

theorem isPath_deltaTypePath_iff {target : Descriptor} {options : Options} {modulePath : String}
    {modules : List String} (h_valid : options.validate = .ok ())
    (h_module : target.modulePath = joinSegments (modulePath :: modules))
    (h_modules : ∀ name ∈ modules, IsItemName name)
    (h_generated : ∀ c, IsForeign c → c ∉ target.generatedName.toList) :
    IsPath IsSegment (deltaTypePath target options) ↔
      OpensPath IsSegment modulePath ∧ (∀ name ∈ modules, name ∉ keywords) ∧
        IsPlainIdentifier options.deltasModule ∧ IsPlainIdentifier target.generatedName := by
  obtain ⟨h_colon, h_anchor, h_deltas⟩ := deltasModule_of_validate h_valid
  have h_segment : ∀ name, IsSegment name → ':' ∉ name.toList :=
    fun _ => Naming.colon_not_mem_of_isSegment
  have h_inside : OpensPath IsSegment (target.modulePath ++ "::" ++ options.deltasModule) ↔
      IsPath IsSegment (target.modulePath ++ "::" ++ options.deltasModule) :=
    or_iff_right (by simp)
  have h_names : (∀ name ∈ modules, IsSegment name) ↔ ∀ name ∈ modules, name ∉ keywords :=
    forall₂_congr fun name h_name => (h_modules name h_name).isSegment_iff
  rw [deltaTypePath, Naming.isPath_concat h_segment (h_generated ':' (by decide +kernel))
      (Naming.not_isAnchor_concat_concat h_colon h_anchor _ _), h_inside,
    Naming.isPath_concat h_segment h_colon (Naming.not_isAnchor_concat h_anchor _), h_module,
    Naming.opensPath_joinSegments h_segment fun name h_name =>
      ⟨(h_modules name h_name).colon_not_mem, (h_modules name h_name).not_mem_anchors⟩,
    h_names, h_deltas, Naming.isSegment_iff (h_generated '#' (by decide +kernel))]
  simp only [and_assoc]

namespace Compilation

variable {compilation : Compilation} {node : Descriptor}

/-- A node is called by the name of an item, in a module that inline modules put below that of one
    of the sources. -/
theorem exists_source_of_mem_nodes (h_node : node ∈ compilation.graph.nodes) :
    IsItemName node.typeName ∧ ∃ source ∈ compilation.sources, ∃ modules,
      node.modulePath = joinSegments (source.modulePath :: modules) ∧
        ∀ name ∈ modules, IsItemName name := by
  obtain ⟨candidate, h_candidate, h_identity, -⟩ := exists_candidate_of_mem_nodes h_node
  obtain ⟨source, h_source, h_candidate⟩ := mem_candidates.mp h_candidate
  rw [Descriptor.typeName, Descriptor.modulePath, ← h_identity]
  exact ⟨isItemName_of_collect h_candidate, source, h_source, modulePath_of_collect h_candidate⟩

/-- The graph holds what a nested property refers to. -/
theorem exists_target_of_nested (h_node : node ∈ compilation.graph.nodes) {property : Property}
    (h_property : property ∈ node.properties) {nested : NestedReference}
    (h_nested : property.nested = some nested) :
    ∃ target ∈ compilation.graph.nodes, target.identity = nested.identity ∧
      nested.deltaPath = deltaTypePath target compilation.options := by
  rw [graph_eq] at h_node ⊢
  obtain ⟨target, h_get, h_target⟩ :=
    Graph.get?_of_nested isUnlinked_of_mem_descriptors h_node h_property h_nested
  exact ⟨target, List.mem_of_find?_eq_some h_get, h_target⟩

/-- With accepted options, a unit reaches its model by a path that Rust takes exactly if the type is
    not called by a keyword, and a nested delta type exactly if that is so of its own name, of the
    deltas module, and of every inline module around the type, and if the path of its file opens a
    path. -/
theorem isPath_emitted (compilation : Compilation) (h_valid : compilation.options.validate = .ok ())
    {unit : OutputUnit} (h_unit : unit ∈ compilation.generate.units) (h_kind : unit.kind = .delta) :
    ∃ node ∈ compilation.graph.nodes, DeltaUnit.emit node compilation.options = unit ∧
      DeltaUnit.Writes node compilation.options ("super::" ++ node.typeName) ∧
      (IsPath IsSegment ("super::" ++ node.typeName) ↔ node.typeName ∉ keywords) ∧
      ∀ property ∈ node.properties, ∀ nested ∈ property.nested,
        DeltaUnit.Writes node compilation.options nested.deltaPath ∧
        ∃ target ∈ compilation.graph.nodes, target.identity = nested.identity ∧
        ∃ source ∈ compilation.sources, ∃ modules,
          target.modulePath = joinSegments (source.modulePath :: modules) ∧
          (IsPath IsSegment nested.deltaPath ↔
            OpensPath IsSegment source.modulePath ∧ (∀ name ∈ modules, name ∉ keywords) ∧
              IsPlainIdentifier compilation.options.deltasModule ∧
              IsPlainIdentifier target.generatedName) := by
  obtain ⟨node, h_node, h_emit⟩ := mem_units_delta.mp ⟨h_unit, h_kind⟩
  obtain ⟨h_name, -⟩ := exists_source_of_mem_nodes h_node
  refine ⟨node, h_node, h_emit, DeltaUnit.writes_model _ _, isPath_model_iff h_name,
    fun property h_property nested h_nested =>
      ⟨DeltaUnit.writes_deltaPath h_property h_nested _, ?_⟩⟩
  obtain ⟨target, h_target, h_identity, h_path⟩ :=
    exists_target_of_nested h_node h_property h_nested
  obtain ⟨-, source, h_source, modules, h_module, h_modules⟩ := exists_source_of_mem_nodes h_target
  refine ⟨target, h_target, h_identity, source, h_source, modules, h_module, ?_⟩
  rw [h_path]
  exact isPath_deltaTypePath_iff h_valid h_module h_modules fun c h_c =>
    h_c.not_mem_of_mem_nodes h_target

/-- A type that holds one in a module beside it. -/
def inlineCompilation : Compilation where
  sources := [{
    modulePath := "crate"
    path := "lib.rs"
    text := "pub mod inner \x7b #[derive(TrackDelta)] pub struct T; \x7d
      #[derive(TrackDelta)] pub struct Outer \x7b pub t: inner::T \x7d" }]

theorem isPath_emitted_inlineCompilation :
    ∃ unit ∈ inlineCompilation.generate.units, unit.kind = .delta ∧
      ∃ node ∈ inlineCompilation.graph.nodes,
        DeltaUnit.emit node inlineCompilation.options = unit ∧
          IsPath IsSegment ("super::" ++ node.typeName) := by
  have h_names : inlineCompilation.graph.nodes ≠ [] ∧
      ∀ node ∈ inlineCompilation.graph.nodes, node.typeName ∉ keywords := by
    decide +kernel
  obtain ⟨first, h_first⟩ := List.exists_mem_of_ne_nil _ h_names.1
  obtain ⟨h_unit, h_kind⟩ := mem_units_delta.mpr ⟨first, h_first, rfl⟩
  obtain ⟨node, h_node, h_emit, -, h_model, -⟩ :=
    isPath_emitted inlineCompilation (by decide) h_unit h_kind
  exact ⟨_, h_unit, h_kind, node, h_node, h_emit, h_model.mpr (h_names.2 node h_node)⟩

/-- The same with a type and a module that are called by keywords. -/
def rawCompilation : Compilation where
  sources := [{
    modulePath := "crate"
    path := "lib.rs"
    text := "pub mod r#fn \x7b #[derive(TrackDelta)] pub struct T; \x7d
      #[derive(TrackDelta)] pub struct r#type \x7b pub t: r#fn::T \x7d" }]

theorem not_isPath_of_mem_segments {path name : String} (h_name : name ∈ Text.segments path)
    (h_keyword : ¬ (name = "" ∨ name ∈ anchors ∨ IsSegment name)) : ¬ IsPath IsSegment path :=
  fun h_path => h_keyword (Naming.part_of_areSegments h_path name h_name)

/-- Both paths of the unit have a keyword among their segments, and nothing is found. -/
theorem not_isPath_rawCompilation :
    rawCompilation.options.validate = .ok () ∧ rawCompilation.generate.diagnostics = [] ∧
    ∃ node ∈ rawCompilation.graph.nodes,
      DeltaUnit.emit node rawCompilation.options ∈ rawCompilation.generate.units ∧
      ∃ property ∈ node.properties, ∃ nested ∈ property.nested,
        "super::" ++ node.typeName = "super::type" ∧
        nested.deltaPath = "crate::fn::deltas::TDelta" ∧
        ¬ IsPath IsSegment ("super::" ++ node.typeName) ∧ ¬ IsPath IsSegment nested.deltaPath := by
  have h_found : rawCompilation.generate.diagnostics = [] ∧
      ∃ node ∈ rawCompilation.graph.nodes, ∃ property ∈ node.properties, ∃ nested ∈ property.nested,
        "super::" ++ node.typeName = "super::type" ∧
        nested.deltaPath = "crate::fn::deltas::TDelta" := by
    decide +kernel
  obtain ⟨h_clean, node, h_node, property, h_property, nested, h_nested, h_model, h_path⟩ := h_found
  obtain ⟨h_unit, -⟩ := mem_units_delta.mpr ⟨node, h_node, rfl⟩
  refine ⟨by decide, h_clean, node, h_node, h_unit, property, h_property, nested,
    h_nested, h_model, h_path, ?_, ?_⟩
  · rw [h_model]
    exact not_isPath_of_mem_segments (by decide : "type" ∈ _) (by decide)
  · rw [h_path]
    exact not_isPath_of_mem_segments (by decide : "fn" ∈ _) (by decide)

end Compilation
end FieldDelta
