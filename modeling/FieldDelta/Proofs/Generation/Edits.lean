import FieldDelta.Proofs.Generation.InputOrder
import Mathlib.Data.List.Forall2

/-! # What an edit changes

An edit that keeps every claim, the identities of the marked types and their generated names, is
visible in the delta units of the edited types only.  `Compilation.edits_stay_local` says so of
descriptors and of source files.

A node is made of its own descriptor and of links, and links are made of claims.  So what needs an
argument is that a node's own descriptor is the only one that could be its own: no other one bears
its identity, before the edit or after it.
-/

namespace FieldDelta

/-! ## Descriptors -/

namespace Graph

variable {descriptors others before after : List Descriptor} {options : Options}

/-- No two descriptors bear the identity of a node. -/
theorem eq_of_mem_kept {d e : Descriptor} (h_kept : e ∈ kept descriptors) (h_d : d ∈ descriptors)
    (h_identity : d.identity = e.identity) : d = e := by
  have h_bearers : bearers descriptors e.identity = [e] :=
    mem_unique_iff_bearers.mp (unique_of_kept h_kept)
  have h_bearer : d ∈ bearers descriptors e.identity := mem_bearers.mpr ⟨h_d, h_identity⟩
  rwa [h_bearers, List.mem_singleton] at h_bearer

theorem find?_kept_of_mem {d : Descriptor} (h_d : d ∈ descriptors) :
    (kept descriptors).find? (·.identity == d.identity) =
      if d ∈ kept descriptors then some d else none := by
  cases h_find : (kept descriptors).find? (·.identity == d.identity) with
  | some e =>
    have h_e : e ∈ kept descriptors := List.mem_of_find?_eq_some h_find
    have h_identity : e.identity = d.identity := by simpa using List.find?_some h_find
    obtain rfl := eq_of_mem_kept h_e h_d h_identity.symm
    rw [if_pos h_e]
  | none =>
    have h_absent : d ∉ kept descriptors := fun h_kept => by
      simpa using List.find?_eq_none.mp h_find d h_kept
    rw [if_neg h_absent]

theorem get?_assemble (descriptors : List Descriptor) (options : Options)
    (identity : TypeIdentity) :
    (assemble descriptors options).get? identity =
      ((kept descriptors).find? (·.identity == identity)).map
        (link (kept descriptors) options) := by
  rw [get?, nodes_assemble, List.find?_map]
  simp only [Function.comp_def, identity_link]

section SameClaims

variable (h_claims : before.map Descriptor.claim = after.map Descriptor.claim)
include h_claims

theorem link_kept_congr (options : Options) :
    link (kept before) options = link (kept after) options :=
  link_congr (claims_kept_congr (.of_eq h_claims))

theorem mem_kept_congr {d : Descriptor} (h_before : d ∈ before) (h_after : d ∈ after) :
    d ∈ kept before ↔ d ∈ kept after := by
  have h_perm : (before.map Descriptor.claim).Perm (after.map Descriptor.claim) := .of_eq h_claims
  simp only [mem_kept, mem_unique, h_before, h_after, bearerCount_congr h_perm,
    solelyClaims_congr h_perm]

/-- A descriptor that stays gives the same node, or none before and after. -/
theorem get?_of_mem_both {d : Descriptor} (h_before : d ∈ before) (h_after : d ∈ after) :
    (assemble before options).get? d.identity = (assemble after options).get? d.identity := by
  rw [get?_assemble, get?_assemble, find?_kept_of_mem h_before, find?_kept_of_mem h_after,
    link_kept_congr h_claims]
  simp only [mem_kept_congr h_claims h_before h_after]

theorem claims_nodes_congr :
    (assemble before options).nodes.map Descriptor.claim =
      (assemble after options).nodes.map Descriptor.claim := by
  have h_link (nodes : List Descriptor) : Descriptor.claim ∘ link nodes options =
      Descriptor.claim := funext (claim_link nodes)
  rw [nodes_assemble, nodes_assemble, List.map_map, List.map_map, h_link, h_link,
    claims_kept_congr (.of_eq h_claims)]

end SameClaims

end Graph

/-! ## Source files -/

/-- What a candidate claims: its identity and, if it can be described, a generated name. -/
def Candidate.claim? (candidate : Candidate) : TypeIdentity × Option String :=
  (candidate.identity, (describe candidate).descriptor.map (·.generatedName))

/-- What the candidates of a file claim, in source order. -/
def Source.claims (source : Source) : List (TypeIdentity × Option String) :=
  source.collected.candidates.map Candidate.claim?

theorem Candidate.claim_of_describe (candidate : Candidate) :
    (describe candidate).descriptor.map Descriptor.claim =
      candidate.claim?.2.map (candidate.claim?.1, ·) := by
  cases h_described : (describe candidate).descriptor with
  | none => simp [claim?, h_described]
  | some d => simp [claim?, h_described, Descriptor.claim, identity_of_describe h_described]

namespace Compilation

variable {before after : Compilation}

/-- A declaration of the type is described in one way before an edit and in another way, or not
    at all, after it. -/
def Edits (before after : Compilation) (identity : TypeIdentity) : Prop :=
  ∃ pair ∈ before.candidates.zip after.candidates, pair.1.identity = identity ∧
    (describe pair.1).descriptor ≠ (describe pair.2).descriptor

/-- A unit before an edit and what it is after it: the same, unless it is the delta unit of an
    edited type. -/
def UnitAgrees (before after : Compilation) (unit edited : OutputUnit) : Prop :=
  unit = edited ∨ unit.kind = .delta ∧ edited.kind = .delta ∧ unit.fileName = edited.fileName ∧
    unit.subject = edited.subject ∧
    ∃ identity, before.Edits after identity ∧ unit.subject = identity.path

theorem claims_candidates (compilation : Compilation) :
    compilation.candidates.map Candidate.claim? = compilation.sources.flatMap Source.claims := by
  rw [candidates, collected, List.flatMap_map, List.map_flatMap]
  rfl

theorem claims_descriptors (compilation : Compilation) :
    compilation.descriptors.map Descriptor.claim =
      (compilation.candidates.map Candidate.claim?).filterMap fun claim =>
        claim.2.map (claim.1, ·) := by
  rw [descriptors, Outcome.descriptors, List.filterMap_map, List.map_filterMap, List.filterMap_map]
  exact List.filterMap_congr fun candidate _ => candidate.claim_of_describe

section SameClaims

variable (h_claims : before.candidates.map Candidate.claim? = after.candidates.map Candidate.claim?)
include h_claims

theorem claims_descriptors_congr :
    before.descriptors.map Descriptor.claim = after.descriptors.map Descriptor.claim := by
  rw [claims_descriptors, claims_descriptors, h_claims]

/-- The descriptor of a type that is not edited stays. -/
theorem eq_of_not_edited {d e : Descriptor} (h_d : d ∈ Graph.kept before.descriptors)
    (h_e : e ∈ Graph.kept after.descriptors) (h_identity : d.identity = e.identity)
    (h_not_edited : ¬ before.Edits after d.identity) : d = e := by
  obtain ⟨candidate, h_candidate, h_described⟩ :=
    mem_descriptors.mp (Graph.mem_unique.mp (Graph.unique_of_kept h_d)).1
  have h_length : before.candidates.length ≤ after.candidates.length := by
    simpa using (congrArg List.length h_claims).le
  -- The declaration has a counterpart after the edit, which is described in the same way.
  rw [← List.map_fst_zip h_length] at h_candidate
  obtain ⟨pair, h_pair, rfl⟩ := List.mem_map.mp h_candidate
  have h_same : (describe pair.1).descriptor = (describe pair.2).descriptor := by
    by_contra h_differ
    exact h_not_edited ⟨pair, h_pair, (identity_of_describe h_described).symm, h_differ⟩
  have h_after : d ∈ after.descriptors :=
    mem_descriptors.mpr ⟨pair.2, (List.of_mem_zip h_pair).2, h_same ▸ h_described⟩
  exact Graph.eq_of_mem_kept h_e h_after h_identity

theorem forall₂_nodes_congr (h_options : before.options = after.options) :
    List.Forall₂ (before.UnitAgrees after)
      (before.graph.nodes.map (DeltaUnit.emit · before.options))
      (after.graph.nodes.map (DeltaUnit.emit · after.options)) := by
  have h_descriptors := claims_descriptors_congr h_claims
  have h_kept : (Graph.kept before.descriptors).map Descriptor.claim =
      (Graph.kept after.descriptors).map Descriptor.claim :=
    Graph.claims_kept_congr (.of_eq h_descriptors)
  have h_paired : List.Forall₂ (fun d e => d.claim = e.claim) (Graph.kept before.descriptors)
      (Graph.kept after.descriptors) := by
    have h_equal : List.Forall₂ (· = ·) ((Graph.kept before.descriptors).map Descriptor.claim)
        ((Graph.kept after.descriptors).map Descriptor.claim) := h_kept ▸ List.forall₂_refl _
    rwa [List.forall₂_map_left_iff, List.forall₂_map_right_iff] at h_equal
  rw [graph_eq, graph_eq, Graph.nodes_assemble, Graph.nodes_assemble,
    Graph.link_kept_congr h_descriptors, h_options, List.map_map, List.map_map,
    List.forall₂_map_left_iff, List.forall₂_map_right_iff]
  obtain ⟨h_length, h_zip⟩ := List.forall₂_iff_zip.mp h_paired
  refine List.forall₂_iff_zip.mpr ⟨h_length, fun {d e} h_pair => ?_⟩
  obtain ⟨h_d, h_e⟩ := List.of_mem_zip h_pair
  obtain ⟨h_identity, h_name⟩ : d.identity = e.identity ∧ d.generatedName = e.generatedName :=
    Prod.ext_iff.mp (h_zip h_pair)
  by_cases h_edited : before.Edits after d.identity
  · refine .inr ⟨rfl, rfl, ?_, ?_, d.identity, h_edited, ?_⟩
    · simpa [DeltaUnit.emit] using congrArg Naming.deltaUnitFileName h_name
    · simpa [DeltaUnit.emit] using congrArg TypeIdentity.path h_identity
    · simp [DeltaUnit.emit]
  · obtain rfl := eq_of_not_edited h_claims h_d h_e h_identity h_edited
    exact .inl rfl

theorem manifests_congr (h_options : before.options = after.options) :
    manifests before.candidates before.graph before.options =
      manifests after.candidates after.graph after.options := by
  have h_nodes : before.graph.nodes.map Descriptor.claim =
      after.graph.nodes.map Descriptor.claim := by
    rw [graph_eq, graph_eq, h_options]
    exact Graph.claims_nodes_congr (claims_descriptors_congr h_claims)
  -- A manifest is made from the modules of the candidates and from the claims of the nodes.
  have h_modules (compilation : Compilation) :
      manifestModules compilation.candidates compilation.graph =
        Text.sorted ((compilation.candidates.map Candidate.claim?).map (·.1.modulePath) ++
          (compilation.graph.nodes.map Descriptor.claim).map (·.1.modulePath)) := by
    simp only [List.map_map]
    rfl
  have h_files (compilation : Compilation) (modulePath : String) :
      manifestFiles compilation.graph modulePath =
        ((compilation.graph.nodes.map Descriptor.claim).filter
          (·.1.modulePath == modulePath)).map (Naming.deltaUnitFileName ·.2) := by
    rw [List.filter_map, List.map_map]
    rfl
  simp only [manifests, h_modules, h_files, h_claims, h_nodes, h_options]

end SameClaims

/-- An edit that keeps what is claimed is invisible to all types but the edited ones: the same
    types become nodes, the same faults are found, and every node whose descriptor stays is the
    same.  In a compilation, of which any files may be edited, the units agree one by one. -/
theorem edits_stay_local :
    (∀ (before after : List Descriptor) (options : Options),
      before.map Descriptor.claim = after.map Descriptor.claim →
      (Graph.assemble before options).diagnostics = (Graph.assemble after options).diagnostics ∧
      (Graph.assemble before options).nodes.map Descriptor.claim =
        (Graph.assemble after options).nodes.map Descriptor.claim ∧
      ∀ d ∈ before, d ∈ after →
        (Graph.assemble before options).get? d.identity =
          (Graph.assemble after options).get? d.identity) ∧
    ∀ before after : Compilation, before.options = after.options →
      before.sources.map Source.claims = after.sources.map Source.claims →
      before.graph.diagnostics = after.graph.diagnostics ∧
      List.Forall₂ (before.UnitAgrees after) before.generate.units after.generate.units := by
  constructor
  · intro before after options h_claims
    exact ⟨Graph.diagnostics_congr (.of_eq h_claims) options,
      Graph.claims_nodes_congr h_claims,
      fun d h_before h_after => Graph.get?_of_mem_both h_claims h_before h_after⟩
  · intro before after h_options h_sources
    have h_claims : before.candidates.map Candidate.claim? =
        after.candidates.map Candidate.claim? := by
      simp only [claims_candidates, List.flatMap, h_sources]
    constructor
    · rw [graph_eq, graph_eq, h_options]
      exact Graph.diagnostics_congr (.of_eq (claims_descriptors_congr h_claims)) _
    · have h_same (units : List OutputUnit) : List.Forall₂ (before.UnitAgrees after) units units :=
        List.forall₂_same.mpr fun _ _ => .inl rfl
      rw [units_generate, units_generate, manifests_congr h_claims h_options]
      refine List.rel_append (List.rel_append ?_ (forall₂_nodes_congr h_claims h_options))
        (h_same _)
      rw [h_options]
      exact h_same _

/-- A file with a type, and the file after an edit of that type. -/
def itemSource : Source where
  modulePath := "crate::a"
  path := "a.rs"
  text := "#[derive(TrackDelta)] struct Item;"

@[inherit_doc itemSource]
def editedItemSource : Source :=
  { itemSource with text := "#[derive(TrackDelta)] pub struct Item \x7b pub n: u8 \x7d" }

/-- A file with a type that refers to the edited one. -/
def pairSource : Source where
  modulePath := "crate::b"
  path := "b.rs"
  text := "#[derive(TrackDelta)] struct Pair \x7b pub left: crate::a::Item \x7d"

/-- The tangled descriptors after an edit of one of them. -/
def editedDescriptors : List Descriptor :=
  Graph.tangledDescriptors.set 4
    { identity := ⟨"crate::a::Item"⟩, generatedName := "ItemDelta", visibility := .parent }

theorem edits_stay_local_editedItem :
    (Graph.tangledDescriptors.map Descriptor.claim = editedDescriptors.map Descriptor.claim ∧
      ∃ tree ∈ Graph.tangledDescriptors, tree ∈ editedDescriptors ∧
        (Graph.assemble Graph.tangledDescriptors {}).get? tree.identity =
          (Graph.assemble editedDescriptors {}).get? tree.identity) ∧
    itemSource.collected ≠ editedItemSource.collected ∧
    itemSource.claims = editedItemSource.claims ∧
    List.Forall₂ (UnitAgrees ⟨[itemSource, pairSource], {}⟩ ⟨[editedItemSource, pairSource], {}⟩)
      (Compilation.mk [itemSource, pairSource] {}).generate.units
      (Compilation.mk [editedItemSource, pairSource] {}).generate.units := by
  obtain ⟨h_assemble, h_compile⟩ := edits_stay_local
  have h_descriptors : Graph.tangledDescriptors.map Descriptor.claim =
      editedDescriptors.map Descriptor.claim := by
    decide
  have h_differ : itemSource.collected ≠ editedItemSource.collected := by
    decide +kernel
  have h_claims : itemSource.claims = editedItemSource.claims := by
    decide +kernel
  obtain ⟨-, -, h_nodes⟩ := h_assemble _ _ {} h_descriptors
  obtain ⟨-, h_units⟩ := h_compile ⟨[itemSource, pairSource], {}⟩
    ⟨[editedItemSource, pairSource], {}⟩ rfl (by rw [List.map_cons, h_claims]; rfl)
  refine ⟨⟨h_descriptors, Graph.tangledDescriptors.head (by decide), ?_⟩, h_differ, h_claims,
    h_units⟩
  exact ⟨by decide, by decide, h_nodes _ (by decide) (by decide)⟩

end Compilation
end FieldDelta
