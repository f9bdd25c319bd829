import FieldDelta.Compilation
import FieldDelta.Proofs.Graph.Assembly

/-! # The candidates of a compilation and its graph

The graph of a compilation is assembled from the descriptors of its candidates.  Assembly expects
descriptors without links, which is what a description gives, so all that is known of assembled
graphs holds of compilations.

* `Compilation.mem_candidates` — candidates come from the files;
* `Compilation.mem_descriptors` — descriptors come from candidates;
* `Compilation.exists_candidate_of_mem_nodes` — so do nodes, but for their links.
-/

namespace FieldDelta.Compilation

/-- The candidates of all files, in source order. -/
def candidates (compilation : Compilation) : List Candidate :=
  compilation.collected.flatMap (·.candidates)

/-- The descriptors of the candidates that have one. -/
def descriptors (compilation : Compilation) : List Descriptor :=
  Outcome.descriptors (compilation.candidates.map describe)

variable {compilation : Compilation}

theorem graph_eq (compilation : Compilation) :
    compilation.graph = Graph.assemble compilation.descriptors compilation.options :=
  rfl

theorem mem_candidates {candidate : Candidate} :
    candidate ∈ compilation.candidates ↔
      ∃ source ∈ compilation.sources, candidate ∈ source.collected.candidates := by
  simp [candidates, collected]

theorem mem_descriptors {d : Descriptor} :
    d ∈ compilation.descriptors ↔
      ∃ candidate ∈ compilation.candidates, (describe candidate).descriptor = some d := by
  simp [descriptors, Outcome.descriptors]

theorem isUnlinked_of_mem_descriptors : ∀ d ∈ compilation.descriptors, d.IsUnlinked := by
  intro d h_d
  obtain ⟨candidate, -, h_described⟩ := mem_descriptors.mp h_d
  exact isUnlinked_of_describe h_described

/-- But for its links, a node is the description of a candidate. -/
theorem exists_candidate_of_mem_nodes {node : Descriptor}
    (h_node : node ∈ compilation.graph.nodes) :
    ∃ candidate ∈ compilation.candidates, candidate.identity = node.identity ∧
      (describe candidate).descriptor = some node.unlinked := by
  have h_origin : node.unlinked ∈ compilation.descriptors :=
    Graph.unlinked_mem_of_mem_nodes isUnlinked_of_mem_descriptors h_node
  obtain ⟨candidate, h_candidate, h_described⟩ := mem_descriptors.mp h_origin
  exact ⟨candidate, h_candidate, (identity_of_describe h_described).symm, h_described⟩

end FieldDelta.Compilation
