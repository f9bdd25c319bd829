import FieldDelta.Graph
import Mathlib.Data.List.Basic

/-! # Which descriptors become nodes

Two passes leave descriptors out: `Graph.unique` drops those that share their identity, and
`Graph.distinctlyNamed` those of the rest that share their generated name.  The passes are
characterised by how often an identity is carried:

* `Graph.mem_unique` — what is left after the first pass;
* `Graph.mem_claimants_unique` — which of it claims a generated name;
* `Graph.mem_nodes` — what is left after both.
-/

namespace FieldDelta

/-- Rising order of identities. -/
def TypeIdentity.Before (a b : TypeIdentity) : Prop :=
  a.path < b.path

namespace Graph

variable {descriptors : List Descriptor}

/-- How many descriptors carry an identity. -/
def bearerCount (descriptors : List Descriptor) (identity : TypeIdentity) : Nat :=
  (descriptors.map (·.identity)).count identity

/-- The identity is carried by one descriptor only, and that has the generated name. -/
def SolelyClaims (descriptors : List Descriptor) (identity : TypeIdentity)
    (generatedName : String) : Prop :=
  bearerCount descriptors identity = 1 ∧
    ∃ d ∈ descriptors, d.identity = identity ∧ d.generatedName = generatedName

/-! ## Identities -/

theorem mem_identities {identity : TypeIdentity} :
    identity ∈ identities descriptors ↔ ∃ d ∈ descriptors, d.identity = identity := by
  simp only [identities, List.mem_map, Text.mem_sorted]
  constructor
  · rintro ⟨path, ⟨d, h_d, rfl⟩, rfl⟩
    exact ⟨d, h_d, rfl⟩
  · rintro ⟨d, h_d, rfl⟩
    exact ⟨_, ⟨d, h_d, rfl⟩, rfl⟩

theorem pairwise_identities (descriptors : List Descriptor) :
    (identities descriptors).Pairwise TypeIdentity.Before := by
  rw [identities, List.pairwise_map]
  exact Text.pairwise_sorted _

theorem mem_bearers {identity : TypeIdentity} {d : Descriptor} :
    d ∈ bearers descriptors identity ↔ d ∈ descriptors ∧ d.identity = identity := by
  simp [bearers]

theorem length_bearers (descriptors : List Descriptor) (identity : TypeIdentity) :
    (bearers descriptors identity).length = bearerCount descriptors identity := by
  rw [bearerCount, List.count, List.countP_map, List.countP_eq_length_filter]
  rfl

/-! ## The first pass -/

theorem only?_eq_some {list : List Descriptor} {d : Descriptor} :
    only? list = some d ↔ list = [d] := by
  unfold only?
  split
  · rw [Option.some.injEq, List.singleton_inj]
  next h_several =>
    refine iff_of_false nofun ?_
    rintro rfl
    exact h_several d rfl

theorem mem_unique_iff_bearers {d : Descriptor} :
    d ∈ unique descriptors ↔ bearers descriptors d.identity = [d] := by
  simp only [unique, List.mem_filterMap, only?_eq_some, mem_identities]
  constructor
  · rintro ⟨_, ⟨_, _, rfl⟩, h_bearers⟩
    have h_identity := (mem_bearers.mp (h_bearers ▸ List.mem_singleton_self d)).2
    rw [h_identity, h_bearers]
  · intro h_bearers
    have h_d : d ∈ descriptors := (mem_bearers.mp (h_bearers ▸ List.mem_singleton_self d)).1
    exact ⟨d.identity, ⟨d, h_d, rfl⟩, h_bearers⟩

/-- The first pass keeps a descriptor if no other carries its identity. -/
theorem mem_unique {d : Descriptor} :
    d ∈ unique descriptors ↔ d ∈ descriptors ∧ bearerCount descriptors d.identity = 1 := by
  rw [mem_unique_iff_bearers, ← length_bearers]
  constructor
  · intro h_bearers
    exact ⟨(mem_bearers.mp (h_bearers ▸ List.mem_singleton_self d)).1, by rw [h_bearers]; rfl⟩
  · rintro ⟨h_d, h_length⟩
    obtain ⟨only, h_only⟩ := List.length_eq_one_iff.mp h_length
    have h_mem : d ∈ bearers descriptors d.identity := mem_bearers.mpr ⟨h_d, rfl⟩
    rw [h_only] at h_mem ⊢
    rw [List.mem_singleton.mp h_mem]

theorem pairwise_unique (descriptors : List Descriptor) :
    (unique descriptors).Pairwise fun a b => a.identity.Before b.identity := by
  rw [unique, List.pairwise_filterMap]
  refine (pairwise_identities descriptors).imp fun {i j} h_before a h_a b h_b => ?_
  have h_identity {i : TypeIdentity} {d : Descriptor}
      (h_d : only? (bearers descriptors i) = some d) : d.identity = i :=
    (mem_bearers.mp (only?_eq_some.mp h_d ▸ List.mem_singleton_self d)).2
  rw [h_identity h_a, h_identity h_b]
  exact h_before

/-! ## Generated names -/

theorem solelyClaims_iff {identity : TypeIdentity} {generatedName : String} :
    SolelyClaims descriptors identity generatedName ↔
      ∃ d ∈ unique descriptors, d.identity = identity ∧ d.generatedName = generatedName := by
  constructor
  · rintro ⟨h_count, d, h_d, rfl, h_name⟩
    exact ⟨d, mem_unique.mpr ⟨h_d, h_count⟩, rfl, h_name⟩
  · rintro ⟨d, h_d, rfl, h_name⟩
    obtain ⟨h_mem, h_count⟩ := mem_unique.mp h_d
    exact ⟨h_count, d, h_mem, rfl, h_name⟩

/-- The identities that claim a generated name, in order. -/
def claimantIdentities (descriptors : List Descriptor) (generatedName : String) :
    List TypeIdentity :=
  (claimants (unique descriptors) generatedName).map (·.identity)

theorem mem_claimantIdentities {identity : TypeIdentity} {generatedName : String} :
    identity ∈ claimantIdentities descriptors generatedName ↔
      SolelyClaims descriptors identity generatedName := by
  simp only [claimantIdentities, claimants, solelyClaims_iff, List.mem_map, List.mem_filter,
    beq_iff_eq]
  constructor
  · rintro ⟨d, ⟨h_d, h_name⟩, h_identity⟩
    exact ⟨d, h_d, h_identity, h_name⟩
  · rintro ⟨d, h_d, h_identity, h_name⟩
    exact ⟨d, ⟨h_d, h_name⟩, h_identity⟩

theorem pairwise_claimantIdentities (descriptors : List Descriptor) (generatedName : String) :
    (claimantIdentities descriptors generatedName).Pairwise TypeIdentity.Before := by
  rw [claimantIdentities, List.pairwise_map]
  exact (pairwise_unique descriptors).filter _

/-! ## Both passes -/

/-- The descriptors that become nodes, before they are linked. -/
def kept (descriptors : List Descriptor) : List Descriptor :=
  distinctlyNamed (unique descriptors)

theorem pairwise_kept (descriptors : List Descriptor) :
    (kept descriptors).Pairwise fun a b => a.identity.Before b.identity :=
  (pairwise_unique descriptors).filter _

theorem unique_of_kept {d : Descriptor} (h_d : d ∈ kept descriptors) : d ∈ unique descriptors :=
  (List.mem_filter.mp h_d).1

/-- Both passes keep a descriptor if no other carries its identity and no other identity that is
    carried once claims its generated name. -/
theorem mem_kept {d : Descriptor} :
    d ∈ kept descriptors ↔ d ∈ unique descriptors ∧
      ∀ other, SolelyClaims descriptors other d.generatedName → other = d.identity := by
  simp only [kept, distinctlyNamed, List.mem_filter, beq_iff_eq]
  refine and_congr_right fun h_d => ?_
  have h_claims : d.identity ∈ claimantIdentities descriptors d.generatedName :=
    mem_claimantIdentities.mpr (solelyClaims_iff.mpr ⟨d, h_d, rfl, rfl⟩)
  have h_length : (claimants (unique descriptors) d.generatedName).length =
      (claimantIdentities descriptors d.generatedName).length := (List.length_map _).symm
  rw [h_length]
  constructor
  · intro h_one other h_other
    obtain ⟨only, h_only⟩ := List.length_eq_one_iff.mp h_one
    rw [← mem_claimantIdentities, h_only, List.mem_singleton] at h_other
    rw [h_only, List.mem_singleton] at h_claims
    rw [h_other, h_claims]
  · intro h_sole
    -- The claimants are in rising order, so that all of them are equal leaves one.
    have h_order := pairwise_claimantIdentities descriptors d.generatedName
    generalize h_list : claimantIdentities descriptors d.generatedName = list at h_claims h_order ⊢
    match list with
    | [] => cases h_claims
    | [_] => rfl
    | first :: second :: rest =>
      have h_all : ∀ other ∈ first :: second :: rest, other = d.identity := fun other h_other =>
        h_sole other (mem_claimantIdentities.mp (h_list ▸ h_other))
      have h_before := (List.pairwise_cons.mp h_order).1 second (by simp)
      rw [h_all first (by simp), h_all second (by simp)] at h_before
      exact absurd h_before (String.lt_irrefl _)

theorem exists_kept {identity : TypeIdentity} :
    (∃ d ∈ kept descriptors, d.identity = identity) ↔
      ∃ name, SolelyClaims descriptors identity name ∧
        ∀ other, SolelyClaims descriptors other name → other = identity := by
  constructor
  · rintro ⟨d, h_d, rfl⟩
    obtain ⟨h_unique, h_sole⟩ := mem_kept.mp h_d
    exact ⟨d.generatedName, solelyClaims_iff.mpr ⟨d, h_unique, rfl, rfl⟩, h_sole⟩
  · rintro ⟨name, h_claims, h_sole⟩
    obtain ⟨d, h_unique, rfl, rfl⟩ := solelyClaims_iff.mp h_claims
    exact ⟨d, mem_kept.mpr ⟨h_unique, h_sole⟩, rfl⟩

end Graph
end FieldDelta
