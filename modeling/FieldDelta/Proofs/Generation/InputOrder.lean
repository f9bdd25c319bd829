import FieldDelta.Proofs.Compilation
import FieldDelta.Proofs.Graph.Claims

/-! # The order of the input

Descriptors and source files come in no particular order.  `Compilation.inputOrder_immaterial`
says what that means: permuted descriptors are assembled into the same graph, and permuted files
are compiled into the same units.  Only what is found in the files themselves is reported in
their order.
-/

namespace FieldDelta

namespace Graph

variable {descriptors others : List Descriptor}

theorem mem_unique_congr (h_perm : descriptors.Perm others) (d : Descriptor) :
    d ∈ unique descriptors ↔ d ∈ unique others := by
  rw [mem_unique, mem_unique, h_perm.mem_iff, bearerCount_congr (h_perm.map _)]

theorem kept_of_perm (h_perm : descriptors.Perm others) : kept descriptors = kept others := by
  refine eq_of_pairwise_key (·.identity.path) (pairwise_kept _) (pairwise_kept _)
    fun d => ?_
  rw [mem_kept, mem_kept, mem_unique_congr h_perm]
  simp only [solelyClaims_congr (h_perm.map _)]

/-- Permuted descriptors are assembled into one graph. -/
theorem assemble_of_perm (h_perm : descriptors.Perm others) (options : Options) :
    assemble descriptors options = assemble others options := by
  have h_nodes : (assemble descriptors options).nodes = (assemble others options).nodes := by
    rw [nodes_assemble, nodes_assemble, kept_of_perm h_perm]
  have h_diagnostics := diagnostics_congr (h_perm.map Descriptor.claim) options
  exact congrArg₂ Graph.mk h_nodes h_diagnostics

end Graph

namespace Compilation

/-- What is found in the files and in the candidates, before assembly. -/
def findings (compilation : Compilation) : List Diagnostic :=
  stageDiagnostics (compilation.collected.map fun c => (c, c.candidates.map describe))

variable {compilation other : Compilation}

theorem diagnostics_generate (compilation : Compilation) :
    compilation.generate.diagnostics = compilation.findings ++ compilation.graph.diagnostics :=
  rfl

theorem units_generate (compilation : Compilation) :
    compilation.generate.units =
      compilation.options.supportUnit?.toList ++
        compilation.graph.nodes.map (DeltaUnit.emit · compilation.options) ++
        manifests compilation.candidates compilation.graph compilation.options :=
  rfl

section Permuted

variable (h_sources : compilation.sources.Perm other.sources)
include h_sources

theorem candidates_of_perm : compilation.candidates.Perm other.candidates :=
  (h_sources.map Source.collected).flatMap_right _

theorem descriptors_of_perm : compilation.descriptors.Perm other.descriptors :=
  ((candidates_of_perm h_sources).map describe).filterMap _

theorem findings_of_perm : compilation.findings.Perm other.findings :=
  ((h_sources.map Source.collected).map _).flatMap_right _

theorem manifestModules_of_perm (graph : Graph) :
    manifestModules compilation.candidates graph = manifestModules other.candidates graph := by
  refine Text.sorted_congr fun modulePath => ?_
  rw [List.mem_append, List.mem_append, ((candidates_of_perm h_sources).map _).mem_iff]

theorem graph_of_perm (h_options : compilation.options = other.options) :
    compilation.graph = other.graph := by
  rw [graph_eq, graph_eq, h_options]
  exact Graph.assemble_of_perm (descriptors_of_perm h_sources) _

theorem units_of_perm (h_options : compilation.options = other.options) :
    compilation.generate.units = other.generate.units := by
  rw [units_generate, units_generate, graph_of_perm h_sources h_options, h_options, manifests,
    manifests, manifestModules_of_perm h_sources]

end Permuted

/-- The order of descriptors and of source files is immaterial, but for the order in which the
    findings about files and candidates are reported. -/
theorem inputOrder_immaterial :
    (∀ (descriptors others : List Descriptor) (options : Options), descriptors.Perm others →
      Graph.assemble descriptors options = Graph.assemble others options) ∧
    ∀ compilation other : Compilation, compilation.sources.Perm other.sources →
      compilation.options = other.options →
      compilation.generate.units = other.generate.units ∧
      compilation.graph = other.graph ∧
      compilation.findings.Perm other.findings ∧
      compilation.generate.diagnostics = compilation.findings ++ compilation.graph.diagnostics ∧
      other.generate.diagnostics = other.findings ++ compilation.graph.diagnostics := by
  refine ⟨fun descriptors others options h_perm => Graph.assemble_of_perm h_perm options, ?_⟩
  intro compilation other h_sources h_options
  have h_graph : compilation.graph = other.graph := graph_of_perm h_sources h_options
  refine ⟨units_of_perm h_sources h_options, h_graph, findings_of_perm h_sources,
    diagnostics_generate _, ?_⟩
  rw [h_graph]
  exact diagnostics_generate other

/-- Files that cannot be read, that fail and that depend on one another. -/
def scatteredCompilation : Compilation where
  sources := [
    { modulePath := "crate::broken", path := "broken.rs", text := "struct" },
    { modulePath := "crate::b"
      path := "b.rs"
      text := "#[derive(TrackDelta)] struct Pair \x7b pub left: crate::a::Item \x7d
        #[derive(TrackDelta)] enum Kind \x7b\x7d" },
    { modulePath := "crate::a", path := "a.rs", text := "#[derive(TrackDelta)] struct Item;" }]

theorem inputOrder_scatteredCompilation :
    Graph.assemble Graph.tangledDescriptors {} =
      Graph.assemble Graph.tangledDescriptors.reverse {} ∧
    ∃ other : Compilation, other.sources = scatteredCompilation.sources.reverse ∧
      scatteredCompilation.generate.units = other.generate.units ∧
      scatteredCompilation.findings.Perm other.findings ∧
      scatteredCompilation.findings ≠ other.findings := by
  have h_differ : scatteredCompilation.findings ≠
      (Compilation.mk scatteredCompilation.sources.reverse {}).findings := by
    decide +kernel
  obtain ⟨h_assemble, h_compile⟩ := inputOrder_immaterial
  obtain ⟨h_units, -, h_findings, -⟩ := h_compile scatteredCompilation
    ⟨scatteredCompilation.sources.reverse, {}⟩ (List.reverse_perm _).symm rfl
  exact ⟨h_assemble _ _ {} (List.reverse_perm _).symm, _, rfl, h_units, h_findings, h_differ⟩

end Compilation
end FieldDelta
