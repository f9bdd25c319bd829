import FieldDelta.Proofs.Compilation

/-! # What becomes of marked types

A marked type gets a delta unit, or an error names it.  `Compilation.emits_or_blames` says so, and
when both happen: several declarations may share an identity, and those that fail are dropped
before assembly counts the others.  So a type that is declared twice can get a delta unit from
one declaration although the other one is reported.

Errors come from four stages, and `Compilation.blames_iff` says what each contributes: files that
cannot be read, candidates that fail, shared identities and shared generated names.
-/

namespace FieldDelta

open FieldDelta.Graph (SolelyClaims bearerCount Clash clashes duplicates)

/-- A delta unit is generated for the identity. -/
def Generation.Emits (generation : Generation) (identity : TypeIdentity) : Prop :=
  ∃ unit ∈ generation.units, unit.kind = .delta ∧ unit.subject = identity.path

instance (generation : Generation) (identity : TypeIdentity) :
    Decidable (generation.Emits identity) :=
  inferInstanceAs (Decidable (∃ _ ∈ _, _))

theorem TypeIdentity.path_inj {a b : TypeIdentity} : a.path = b.path ↔ a = b := by
  rw [TypeIdentity.mk.injEq]

/-! ## Descriptors that are claimed once -/

namespace Graph

variable {descriptors : List Descriptor} {identity : TypeIdentity}

theorem SolelyClaims.name_eq {name name' : String}
    (h_claims : SolelyClaims descriptors identity name)
    (h_claims' : SolelyClaims descriptors identity name') : name = name' := by
  obtain ⟨d, h_d, rfl, rfl⟩ := solelyClaims_iff.mp h_claims
  obtain ⟨e, h_e, h_identity, rfl⟩ := solelyClaims_iff.mp h_claims'
  have h_bearers := mem_unique_iff_bearers.mp h_e
  rw [h_identity, mem_unique_iff_bearers.mp h_d, List.cons.injEq] at h_bearers
  rw [h_bearers.1]

/-- A node has no part in any fault. -/
theorem not_faulty_of_kept (h_kept : ∃ d ∈ kept descriptors, d.identity = identity) :
    ¬ 2 ≤ bearerCount descriptors identity ∧
      ¬ ∃ clash ∈ clashes descriptors, identity ∈ clash.identities := by
  obtain ⟨name, h_claims, h_sole⟩ := exists_kept.mp h_kept
  constructor
  · rw [h_claims.1]
    decide
  · rintro ⟨clash, h_clash, h_listed⟩
    have h_faults := areFaults descriptors
    -- Its name would be the clash's, and that has two claimants.
    have h_name : clash.generatedName = name :=
      ((h_faults.mem_identities clash h_clash identity).mp h_listed).name_eq h_claims
    obtain ⟨a, b, h_ne, h_a, h_b⟩ := (h_faults.exists_clash name).mp ⟨clash, h_clash, h_name⟩
    exact h_ne ((h_sole a h_a).trans (h_sole b h_b).symm)

/-- A descriptor becomes a node unless it has part in a fault. -/
theorem kept_or_faulty {d : Descriptor} (h_d : d ∈ descriptors) :
    (∃ e ∈ kept descriptors, e.identity = d.identity) ∨ 2 ≤ bearerCount descriptors d.identity ∨
      ∃ clash ∈ clashes descriptors, d.identity ∈ clash.identities := by
  rw [exists_kept]
  have h_pos : 0 < bearerCount descriptors d.identity :=
    List.count_pos_iff.mpr (List.mem_map.mpr ⟨d, h_d, rfl⟩)
  by_cases h_several : 2 ≤ bearerCount descriptors d.identity
  · exact .inr (.inl h_several)
  have h_claims : SolelyClaims descriptors d.identity d.generatedName :=
    ⟨by omega, d, h_d, rfl, rfl⟩
  by_cases h_sole : ∀ other, SolelyClaims descriptors other d.generatedName → other = d.identity
  · exact .inl ⟨d.generatedName, h_claims, h_sole⟩
  · have h_faults := areFaults descriptors
    push Not at h_sole
    obtain ⟨other, h_other, h_ne⟩ := h_sole
    obtain ⟨clash, h_clash, h_name⟩ :=
      (h_faults.exists_clash d.generatedName).mpr ⟨other, d.identity, h_ne, h_other, h_claims⟩
    refine .inr (.inr ⟨clash, h_clash, (h_faults.mem_identities clash h_clash _).mpr ?_⟩)
    rwa [h_name]

end Graph

/-! ## Errors by stage -/

/-- The diagnostic is an error whose subject is the identity. -/
def Diagnostic.Accuses (found : Diagnostic) (identity : TypeIdentity) : Prop :=
  found.isError = true ∧ found.subject = some identity.path

instance (found : Diagnostic) (identity : TypeIdentity) : Decidable (found.Accuses identity) :=
  inferInstanceAs (Decidable (_ ∧ _))

theorem Diagnostic.accuses_of_isError {found : Diagnostic} {subject identity : TypeIdentity}
    (h_error : found.isError = true) (h_subject : found.subject = some subject.path) :
    found.Accuses identity ↔ subject = identity := by
  rw [Accuses, and_iff_right h_error, h_subject, Option.some.injEq, TypeIdentity.path_inj]

namespace Compilation

variable {compilation : Compilation} {identity : TypeIdentity}

/-- An error names the identity, as its subject or among the claimants of a generated name. -/
def Blames (compilation : Compilation) (identity : TypeIdentity) : Prop :=
  (∃ found ∈ compilation.generate.diagnostics, found.Accuses identity) ∨
  ∃ clash ∈ clashes compilation.descriptors,
    clash.finding ∈ compilation.generate.diagnostics ∧ identity ∈ clash.identities

/-- A file that cannot be parsed has the given path. -/
def IsUnreadable (compilation : Compilation) (path : String) : Prop :=
  ∃ source ∈ compilation.sources, source.path = path ∧ Syntax.parseFile? source.text = none

/-- A declaration with the identity cannot be described. -/
def Fails (compilation : Compilation) (identity : TypeIdentity) : Prop :=
  ∃ candidate ∈ compilation.candidates,
    candidate.identity = identity ∧ (describe candidate).descriptor = none

/-- The identity has part in what assembly finds. -/
def IsFaulty (compilation : Compilation) (identity : TypeIdentity) : Prop :=
  2 ≤ bearerCount compilation.descriptors identity ∨
    ∃ clash ∈ clashes compilation.descriptors, identity ∈ clash.identities

theorem accused_of_file :
    (∃ source ∈ compilation.sources, ∃ found ∈ source.collected.diagnostics,
      found.Accuses identity) ↔ compilation.IsUnreadable identity.path := by
  have h_source (source : Source) : (∃ found ∈ source.collected.diagnostics,
      found.Accuses identity) ↔
        source.path = identity.path ∧ Syntax.parseFile? source.text = none := by
    unfold Source.collected collect
    split
    next h_text => simp [h_text]
    next h_text => simp [h_text, Diagnostic.Accuses, Diagnostic.unreadableFile, Diagnostic.isError]
  simp only [h_source, IsUnreadable]

theorem accused_of_candidate :
    (∃ candidate ∈ compilation.candidates, ∃ found ∈ (describe candidate).diagnostics,
      found.Accuses identity) ↔ compilation.Fails identity := by
  refine exists_congr fun candidate => and_congr_right fun _ => ?_
  rw [descriptor_eq_none_iff]
  constructor
  · rintro ⟨found, h_found, h_error, h_subject⟩
    obtain ⟨problem, rfl⟩ := exists_problem_of_mem_diagnostics h_found
    exact ⟨TypeIdentity.path_inj.mp (Option.some.inj h_subject), _, h_found, h_error⟩
  · rintro ⟨rfl, found, h_found, h_error⟩
    obtain ⟨problem, rfl⟩ := exists_problem_of_mem_diagnostics h_found
    exact ⟨_, h_found, h_error, rfl⟩

theorem accused_of_graph :
    ((∃ found ∈ compilation.graph.diagnostics, found.Accuses identity) ∨
      ∃ clash ∈ clashes compilation.descriptors, identity ∈ clash.identities) ↔
      compilation.IsFaulty identity := by
  have h_duplicate (duplicate : TypeIdentity) (count : Nat) :
      (Graph.duplicateIdentity duplicate count).Accuses identity ↔ duplicate = identity :=
    Diagnostic.accuses_of_isError rfl rfl
  have h_finding (clash : Clash) : clash.finding.Accuses identity ↔ clash.first = identity :=
    Diagnostic.accuses_of_isError rfl rfl
  simp only [graph_eq, Graph.diagnostics_assemble, List.mem_append, List.mem_map, or_and_right,
    exists_or, exists_exists_and_eq_and, h_duplicate, h_finding, exists_eq_right,
    Graph.mem_duplicates, or_assoc]
  -- The subject of a clash is one of its identities.
  refine or_congr_right (or_iff_right_of_imp ?_)
  rintro ⟨clash, h_clash, rfl⟩
  exact ⟨clash, h_clash, List.mem_cons_self ..⟩

/-- What a stage before assembly reports is about a file or about a candidate. -/
theorem mem_stageDiagnostics {results : List Collected} {found : Diagnostic} :
    found ∈ stageDiagnostics (results.map fun c => (c, c.candidates.map describe)) ↔
      (∃ c ∈ results, found ∈ c.diagnostics) ∨
      ∃ candidate ∈ results.flatMap (·.candidates), found ∈ (describe candidate).diagnostics := by
  simp only [stageDiagnostics, List.flatMap_map, List.mem_flatMap, List.mem_append]
  constructor
  · rintro ⟨c, h_c, h_found | ⟨candidate, h_candidate, h_found⟩⟩
    · exact .inl ⟨c, h_c, h_found⟩
    · exact .inr ⟨candidate, ⟨c, h_c, h_candidate⟩, h_found⟩
  · rintro (⟨c, h_c, h_found⟩ | ⟨candidate, ⟨c, h_c, h_candidate⟩, h_found⟩)
    · exact ⟨c, h_c, .inl h_found⟩
    · exact ⟨c, h_c, .inr ⟨candidate, h_candidate, h_found⟩⟩

theorem mem_diagnostics_generate {found : Diagnostic} :
    found ∈ compilation.generate.diagnostics ↔
      (∃ source ∈ compilation.sources, found ∈ source.collected.diagnostics) ∨
      (∃ candidate ∈ compilation.candidates, found ∈ (describe candidate).diagnostics) ∨
      found ∈ compilation.graph.diagnostics := by
  have h_sources : (∃ c ∈ compilation.collected, found ∈ c.diagnostics) ↔
      ∃ source ∈ compilation.sources, found ∈ source.collected.diagnostics := by
    simp [collected]
  rw [generate, generationOf, List.mem_append, mem_stageDiagnostics, or_assoc, h_sources]
  rfl

theorem exists_mem_diagnostics_generate {p : Diagnostic → Prop} :
    (∃ found ∈ compilation.generate.diagnostics, p found) ↔
      (∃ source ∈ compilation.sources, ∃ found ∈ source.collected.diagnostics, p found) ∨
      (∃ candidate ∈ compilation.candidates, ∃ found ∈ (describe candidate).diagnostics, p found) ∨
      ∃ found ∈ compilation.graph.diagnostics, p found := by
  simp only [mem_diagnostics_generate]
  constructor
  · rintro ⟨found, ⟨source, h_source, h_found⟩ | ⟨candidate, h_candidate, h_found⟩ | h_found, h_p⟩
    · exact .inl ⟨source, h_source, found, h_found, h_p⟩
    · exact .inr (.inl ⟨candidate, h_candidate, found, h_found, h_p⟩)
    · exact .inr (.inr ⟨found, h_found, h_p⟩)
  · rintro (⟨source, h_source, found, h_found, h_p⟩ |
      ⟨candidate, h_candidate, found, h_found, h_p⟩ | ⟨found, h_found, h_p⟩)
    · exact ⟨found, .inl ⟨source, h_source, h_found⟩, h_p⟩
    · exact ⟨found, .inr (.inl ⟨candidate, h_candidate, h_found⟩), h_p⟩
    · exact ⟨found, .inr (.inr h_found), h_p⟩

/-- An identity is blamed for an unreadable file of its name, for a declaration that fails, or for
    its part in a fault. -/
theorem blames_iff :
    compilation.Blames identity ↔
      compilation.IsUnreadable identity.path ∨ compilation.Fails identity ∨
        compilation.IsFaulty identity := by
  have h_reported : (∃ clash ∈ clashes compilation.descriptors,
      clash.finding ∈ compilation.generate.diagnostics ∧ identity ∈ clash.identities) ↔
      ∃ clash ∈ clashes compilation.descriptors, identity ∈ clash.identities := by
    refine exists_congr fun clash => and_congr_right fun h_clash => and_iff_right ?_
    rw [mem_diagnostics_generate, graph_eq, Graph.diagnostics_assemble, List.mem_append]
    exact .inr (.inr (.inr (List.mem_map_of_mem h_clash)))
  rw [Blames, h_reported, exists_mem_diagnostics_generate, accused_of_file, accused_of_candidate,
    or_assoc, or_assoc, accused_of_graph]

/-! ## Delta units -/

theorem mem_units_delta {unit : OutputUnit} :
    unit ∈ compilation.generate.units ∧ unit.kind = .delta ↔
      ∃ node ∈ compilation.graph.nodes, DeltaUnit.emit node compilation.options = unit := by
  have h_support : unit ∈ compilation.options.supportUnit?.toList → unit.kind ≠ .delta := by
    unfold Options.supportUnit?
    split <;> simp +contextual [SupportUnit.emit]
  have h_manifest (candidates : List Candidate) (graph : Graph) :
      unit ∈ manifests candidates graph compilation.options → unit.kind ≠ .delta := by
    intro h_unit
    obtain ⟨modulePath, -, rfl⟩ := List.mem_map.mp h_unit
    nofun
  rw [generate, generationOf, List.mem_append, List.mem_append]
  constructor
  · rintro ⟨(h_unit | h_unit) | h_unit, h_kind⟩
    · exact absurd h_kind (h_support h_unit)
    · exact List.mem_map.mp h_unit
    · exact absurd h_kind (h_manifest _ _ h_unit)
  · rintro ⟨node, h_node, rfl⟩
    exact ⟨.inl (.inr (List.mem_map.mpr ⟨node, h_node, rfl⟩)), rfl⟩

/-- Delta units are generated for what assembly keeps. -/
theorem emits_iff :
    compilation.generate.Emits identity ↔
      ∃ d ∈ Graph.kept compilation.descriptors, d.identity = identity := by
  have h_units : compilation.generate.Emits identity ↔
      ∃ node ∈ compilation.graph.nodes, node.identity = identity := by
    constructor
    · rintro ⟨unit, h_unit, h_kind, h_subject⟩
      obtain ⟨node, h_node, rfl⟩ := mem_units_delta.mp ⟨h_unit, h_kind⟩
      exact ⟨node, h_node, TypeIdentity.path_inj.mp h_subject⟩
    · rintro ⟨node, h_node, rfl⟩
      obtain ⟨h_unit, h_kind⟩ := mem_units_delta.mpr ⟨node, h_node, rfl⟩
      exact ⟨_, h_unit, h_kind, rfl⟩
  rw [h_units, graph_eq, Graph.nodes_assemble]
  simp only [List.mem_map, exists_exists_and_eq_and, Graph.identity_link]

/-! ## Accounting -/

/-- A marked type gets a delta unit or is blamed.  It gets both only if one of its declarations
    fails where another one stands, or if an unreadable file is called like it. -/
theorem emits_or_blames (compilation : Compilation) (identity : TypeIdentity)
    (h_marked : ∃ candidate ∈ compilation.candidates, candidate.identity = identity) :
    (compilation.generate.Emits identity ∨ compilation.Blames identity) ∧
    (compilation.generate.Emits identity →
      (compilation.Blames identity ↔
        compilation.IsUnreadable identity.path ∨ compilation.Fails identity)) := by
  obtain ⟨candidate, h_candidate, rfl⟩ := h_marked
  constructor
  · rw [emits_iff, blames_iff]
    cases h_described : (describe candidate).descriptor with
    | none => exact .inr (.inr (.inl ⟨candidate, h_candidate, rfl, h_described⟩))
    | some d =>
      rw [← identity_of_describe h_described]
      have h_d : d ∈ compilation.descriptors := mem_descriptors.mpr ⟨_, h_candidate, h_described⟩
      exact (Graph.kept_or_faulty h_d).imp_right fun h_faulty => .inr (.inr h_faulty)
  · intro h_emits
    have h_sound := Graph.not_faulty_of_kept (emits_iff.mp h_emits)
    rw [blames_iff, ← or_assoc, or_iff_left_iff_imp]
    exact fun h_faulty => absurd h_faulty (not_or.mpr h_sound)

/-- Two types that claim one generated name. -/
def clashingCompilation : Compilation where
  sources := [
    { modulePath := "crate::a", path := "a.rs", text := "#[derive(TrackDelta)] struct T;" },
    { modulePath := "crate::b", path := "b.rs", text := "#[derive(TrackDelta)] struct T;" }]

theorem blames_clashingCompilation :
    (∃ candidate ∈ clashingCompilation.candidates, candidate.identity = ⟨"crate::b::T"⟩) ∧
    ¬ clashingCompilation.generate.Emits ⟨"crate::b::T"⟩ ∧
    clashingCompilation.Blames ⟨"crate::b::T"⟩ := by
  have h_marked : ∃ candidate ∈ clashingCompilation.candidates,
      candidate.identity = ⟨"crate::b::T"⟩ := by
    decide +kernel
  have h_not_emitted : ¬ clashingCompilation.generate.Emits ⟨"crate::b::T"⟩ := by
    decide +kernel
  obtain ⟨h_either, -⟩ := emits_or_blames clashingCompilation ⟨"crate::b::T"⟩ h_marked
  exact ⟨h_marked, h_not_emitted, h_either.resolve_left h_not_emitted⟩

/-- A struct that is declared again as an enum, which cannot be tracked. -/
def redeclaringCompilation : Compilation where
  sources := [
    { modulePath := "crate", path := "lib.rs",
      text := "#[derive(TrackDelta)] struct A; #[derive(TrackDelta)] enum A \x7b\x7d" }]

theorem emits_and_blames_redeclaringCompilation :
    (∃ candidate ∈ redeclaringCompilation.candidates, candidate.identity = ⟨"crate::A"⟩) ∧
    redeclaringCompilation.generate.Emits ⟨"crate::A"⟩ ∧
    redeclaringCompilation.Blames ⟨"crate::A"⟩ := by
  refine ⟨?_, ?_, .inl ?_⟩ <;> decide +kernel

end Compilation
end FieldDelta
