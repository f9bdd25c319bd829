import FieldDelta.Proofs.Generation.FileNames
import Mathlib.Data.List.Pairwise

/-! # The items of a module's delta units

All units that a manifest includes share one module, in which each defines its delta type and, if
asked for, the trait that compares two models.  Assembly keeps delta types apart.  A trait takes
the name of its delta type with `Ext` behind it, and nothing keeps that apart from other delta
types: `Compilation.nodup_itemNames_iff` says that this is the only way to a clash, and that there
is none where types keep the suffix that they have by default.

* `DeltaUnit.itemNames` — what one unit defines;
* `Compilation.itemNames` — what all units of a module define.
-/

namespace FieldDelta

namespace DeltaUnit

variable {node : Descriptor} {options : Options}

/-- The names of the items that the unit of a node defines. -/
def itemNames (node : Descriptor) (options : Options) : List String :=
  let context := Context.of node options
  context.name :: if node.config.convenienceFunctions then [extensionName context] else []

/-- The unit opens a struct under the first of its names. -/
theorem opening_struct_mem_steps (node : Descriptor) (options : Options) :
    .opening s!"{node.visibility.text} struct {node.generatedName}<'a> \x7b" ∈
      steps node options := by
  simp only [steps, List.mem_append]
  exact .inl (.inl (.inl (.inr (by simp [structSteps, Context.visibility, Context.name,
    Context.of]))))

/-- The unit opens a trait under the second one, if it has one. -/
theorem opening_trait_mem_steps (h_extended : node.config.convenienceFunctions = true) :
    .opening s!"{node.visibility.text} trait {extensionName (Context.of node options)} \x7b" ∈
      steps node options := by
  simp only [steps, List.mem_append]
  exact .inr (by simp [h_extended, extensionSteps, extensionName, Context.visibility,
    Context.name, Context.of])

theorem mem_itemNames {name : String} :
    name ∈ itemNames node options ↔ name = node.generatedName ∨
      node.config.convenienceFunctions = true ∧ name = node.generatedName ++ "Ext" := by
  unfold itemNames
  by_cases h_extended : node.config.convenienceFunctions <;>
    simp [h_extended, extensionName, Context.name, Context.of]

/-- A trait is never called like the delta type that it is for. -/
theorem generatedName_ne_append_Ext (generatedName : String) :
    generatedName ≠ generatedName ++ "Ext" := by
  intro h_eq
  have h_length := congrArg String.length h_eq
  rw [String.length_append] at h_length
  have h_ext : "Ext".length = 3 := by decide
  omega

theorem nodup_itemNames (node : Descriptor) (options : Options) :
    (itemNames node options).Nodup := by
  unfold itemNames
  by_cases h_extended : node.config.convenienceFunctions <;>
    simp [h_extended, extensionName, generatedName_ne_append_Ext]

/-- Neither of two delta types is called like the trait of the other. -/
def Apart (node other : Descriptor) : Prop :=
  (node.config.convenienceFunctions = true → other.generatedName ≠ node.generatedName ++ "Ext") ∧
  (other.config.convenienceFunctions = true → node.generatedName ≠ other.generatedName ++ "Ext")

instance : Std.Symm Apart where
  symm _ _ := And.symm

theorem Apart.refl (node : Descriptor) : Apart node node :=
  ⟨fun _ => generatedName_ne_append_Ext _, fun _ => generatedName_ne_append_Ext _⟩

/-- Units of differently named delta types share no name exactly if these are apart. -/
theorem disjoint_itemNames_iff {other : Descriptor}
    (h_ne : node.generatedName ≠ other.generatedName) :
    (itemNames node options).Disjoint (itemNames other options) ↔ Apart node other := by
  simp only [List.Disjoint, mem_itemNames]
  constructor
  · intro h_disjoint
    exact ⟨fun h_extended h_eq => h_disjoint (.inr ⟨h_extended, h_eq⟩) (.inl rfl),
      fun h_extended h_eq => h_disjoint (.inl rfl) (.inr ⟨h_extended, h_eq⟩)⟩
  · rintro ⟨h_node, h_other⟩ name (rfl | ⟨h_extended, rfl⟩) (h_eq | ⟨h_extended', h_eq⟩)
    · exact h_ne h_eq
    · exact h_other h_extended' h_eq
    · exact h_node h_extended h_eq.symm
    · exact h_ne ((String.append_left_inj _).mp h_eq)

end DeltaUnit

namespace Compilation

variable {compilation : Compilation} {modulePath : String}

/-- The nodes whose units a module includes, in identity order. -/
def nodesOf (compilation : Compilation) (modulePath : String) : List Descriptor :=
  compilation.graph.nodes.filter (·.modulePath == modulePath)

/-- The names of all items that the units of a module define, in the order in which its manifest
    includes them. -/
def itemNames (compilation : Compilation) (modulePath : String) : List String :=
  (compilation.nodesOf modulePath).flatMap (DeltaUnit.itemNames · compilation.options)

theorem manifestFiles_eq (compilation : Compilation) (modulePath : String) :
    manifestFiles compilation.graph modulePath =
      (compilation.nodesOf modulePath).map fun node =>
        Naming.deltaUnitFileName node.generatedName :=
  rfl

theorem mem_nodesOf {node : Descriptor} :
    node ∈ compilation.nodesOf modulePath ↔
      node ∈ compilation.graph.nodes ∧ node.modulePath = modulePath := by
  simp [nodesOf]

/-- The delta types of a module have different names. -/
theorem pairwise_generatedName_nodesOf (compilation : Compilation) (modulePath : String) :
    (compilation.nodesOf modulePath).Pairwise fun a b => a.generatedName ≠ b.generatedName :=
  (List.pairwise_map.mp Graph.nodup_generatedName_assemble).filter _

/-- A node is named by its type and its suffix. -/
theorem generatedName_of_mem_nodes {node : Descriptor}
    (h_node : node ∈ compilation.graph.nodes) :
    node.generatedName = node.config.generatedName node.typeName := by
  obtain ⟨candidate, -, h_identity, h_described⟩ := exists_candidate_of_mem_nodes h_node
  have h_name := generatedName_of_describe h_described
  rwa [h_identity] at h_name

/-- No name with the suffix that types have by default ends like that of a trait. -/
theorem generatedName_ne_append_Ext_of_suffix {node : Descriptor} {name : String}
    (h_node : node ∈ compilation.graph.nodes) (h_suffix : node.config.suffix = "Delta") :
    node.generatedName ≠ name ++ "Ext" := by
  rw [generatedName_of_mem_nodes h_node, TrackingConfig.generatedName, h_suffix]
  intro h_eq
  have h_ends : node.typeName.toList ++ "De".toList ++ "lta".toList =
      name.toList ++ "Ext".toList := by
    simpa [← String.toList_inj] using h_eq
  exact absurd (List.append_inj_right' h_ends rfl) (by decide)

theorem pairwise_apart_iff {nodes : List Descriptor} :
    nodes.Pairwise DeltaUnit.Apart ↔ ∀ a ∈ nodes, ∀ b ∈ nodes,
      a.config.convenienceFunctions = true → b.generatedName ≠ a.generatedName ++ "Ext" := by
  constructor
  · intro h_apart a h_a b h_b
    exact (h_apart.forall_of_forall (fun node _ => DeltaUnit.Apart.refl node) h_a h_b).1
  · intro h_names
    exact List.pairwise_of_forall_mem_list fun a h_a b h_b =>
      ⟨h_names a h_a b h_b, h_names b h_b a h_a⟩

/-- The items of a module have different names exactly if no delta type is called like the trait
    of another.  Where all types of the module keep the suffix that they have by default, none is
    called so. -/
theorem nodup_itemNames_iff (compilation : Compilation) (modulePath : String) :
    ((compilation.itemNames modulePath).Nodup ↔
      ∀ a ∈ compilation.nodesOf modulePath, ∀ b ∈ compilation.nodesOf modulePath,
        a.config.convenienceFunctions = true → b.generatedName ≠ a.generatedName ++ "Ext") ∧
    ((∀ node ∈ compilation.nodesOf modulePath, node.config.suffix = "Delta") →
      (compilation.itemNames modulePath).Nodup) := by
  have h_iff : (compilation.itemNames modulePath).Nodup ↔
      ∀ a ∈ compilation.nodesOf modulePath, ∀ b ∈ compilation.nodesOf modulePath,
        a.config.convenienceFunctions = true → b.generatedName ≠ a.generatedName ++ "Ext" := by
    rw [itemNames, List.nodup_flatMap,
      and_iff_right fun node _ => DeltaUnit.nodup_itemNames node compilation.options,
      ← pairwise_apart_iff]
    have h_names := pairwise_generatedName_nodesOf compilation modulePath
    exact ⟨fun h_disjoint => (h_names.and h_disjoint).imp fun ⟨h_ne, h_units⟩ =>
        (DeltaUnit.disjoint_itemNames_iff h_ne).mp h_units,
      fun h_apart => (h_names.and h_apart).imp fun ⟨h_ne, h_units⟩ =>
        (DeltaUnit.disjoint_itemNames_iff h_ne).mpr h_units⟩
  refine ⟨h_iff, fun h_suffix => h_iff.mpr fun a _ b h_b _ => ?_⟩
  exact generatedName_ne_append_Ext_of_suffix (mem_nodesOf.mp h_b).1 (h_suffix b h_b)

/-- Two types with default suffixes, each with a delta type and a trait. -/
def siblingsCompilation : Compilation where
  sources := [{
    modulePath := "crate"
    path := "lib.rs"
    text := "#[derive(TrackDelta)] struct A; #[derive(TrackDelta)] struct ADelta;" }]

theorem nodup_itemNames_siblingsCompilation :
    siblingsCompilation.itemNames "crate" =
      ["ADelta", "ADeltaExt", "ADeltaDelta", "ADeltaDeltaExt"] ∧
    (∀ node ∈ siblingsCompilation.nodesOf "crate", node.config.suffix = "Delta") ∧
    (siblingsCompilation.itemNames "crate").Nodup := by
  have h_suffix : ∀ node ∈ siblingsCompilation.nodesOf "crate", node.config.suffix = "Delta" := by
    decide +kernel
  exact ⟨by decide +kernel, h_suffix, (nodup_itemNames_iff siblingsCompilation "crate").2 h_suffix⟩

/-- A type whose delta type is called like the trait of another. -/
def extendedCompilation : Compilation where
  sources := [{
    modulePath := "crate"
    path := "lib.rs"
    text := "#[derive(TrackDelta)] struct A;
      #[derive(TrackDelta)] #[delta(suffix = \"Ext\")] struct ADelta;" }]

/-- Both types stay, without a finding. -/
theorem not_nodup_itemNames_extendedCompilation :
    extendedCompilation.itemNames "crate" =
      ["ADelta", "ADeltaExt", "ADeltaExt", "ADeltaExtExt"] ∧
    extendedCompilation.generate.diagnostics = [] ∧
    ¬ (extendedCompilation.itemNames "crate").Nodup := by
  have h_names : extendedCompilation.itemNames "crate" =
      ["ADelta", "ADeltaExt", "ADeltaExt", "ADeltaExtExt"] := by
    decide +kernel
  exact ⟨h_names, by decide +kernel, by rw [h_names]; decide⟩

end Compilation
end FieldDelta
