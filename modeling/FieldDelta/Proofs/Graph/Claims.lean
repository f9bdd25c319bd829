import FieldDelta.Proofs.Graph.Assembly
import Mathlib.Data.List.Sort

/-! # What assembly depends on

A descriptor claims an identity and a generated name.  Which descriptors become nodes, what is
found and where links lead is decided by the claims of all descriptors, in whatever order they
come:

* `Graph.diagnostics_congr` — the findings of assembly;
* `Graph.claims_kept_congr` — the claims of the nodes;
* `Graph.link_congr` — the links of a node.

The rest of a descriptor is of no concern to any node but its own.  Lists that are kept in rising
order are told apart by their members alone, which carries all of this.
-/

namespace FieldDelta

/-! ## Ordered lists -/

/-- Lists in strictly rising order of a key are equal if they have the same members. -/
theorem eq_of_pairwise_key {α : Type} (key : α → String) {list other : List α}
    (h_list : list.Pairwise (key · < key ·)) (h_other : other.Pairwise (key · < key ·))
    (h_members : ∀ a, a ∈ list ↔ a ∈ other) : list = other := by
  have : Std.Irrefl (α := α) (key · < key ·) := ⟨fun _ => String.lt_irrefl _⟩
  have : Std.Antisymm (α := α) (key · < key ·) :=
    ⟨fun _ _ h_lt h_gt => absurd h_gt (String.lt_asymm h_lt)⟩
  exact h_list.eq_of_mem_iff h_other h_members

theorem Text.sorted_congr {texts others : List String} (h_members : ∀ t, t ∈ texts ↔ t ∈ others) :
    sorted texts = sorted others := by
  refine eq_of_pairwise_key id (pairwise_sorted _) (pairwise_sorted _) fun t => ?_
  rw [mem_sorted, mem_sorted, h_members]

/-! ## Claims -/

/-- What a descriptor claims: an identity and a generated name. -/
def Descriptor.claim (descriptor : Descriptor) : TypeIdentity × String :=
  (descriptor.identity, descriptor.generatedName)

namespace Graph

variable {descriptors others : List Descriptor} {options : Options}

theorem bearerCount_eq_count (descriptors : List Descriptor) (identity : TypeIdentity) :
    bearerCount descriptors identity =
      ((descriptors.map Descriptor.claim).map Prod.fst).count identity := by
  rw [List.map_map]
  rfl

theorem solelyClaims_iff_mem {identity : TypeIdentity} {name : String} :
    SolelyClaims descriptors identity name ↔
      bearerCount descriptors identity = 1 ∧
        (identity, name) ∈ descriptors.map Descriptor.claim := by
  simp [SolelyClaims, Descriptor.claim]

theorem mem_claims_kept {claim : TypeIdentity × String} :
    claim ∈ (kept descriptors).map Descriptor.claim ↔
      SolelyClaims descriptors claim.1 claim.2 ∧
        ∀ other, SolelyClaims descriptors other claim.2 → other = claim.1 := by
  rw [List.mem_map]
  constructor
  · rintro ⟨d, h_d, rfl⟩
    obtain ⟨h_unique, h_sole⟩ := mem_kept.mp h_d
    exact ⟨solelyClaims_iff.mpr ⟨d, h_unique, rfl, rfl⟩, h_sole⟩
  · rintro ⟨h_claims, h_sole⟩
    obtain ⟨d, h_unique, h_identity, h_name⟩ := solelyClaims_iff.mp h_claims
    refine ⟨d, mem_kept.mpr ⟨h_unique, ?_⟩, Prod.ext h_identity h_name⟩
    rwa [h_identity, h_name]

theorem pairwise_claims_kept (descriptors : List Descriptor) :
    ((kept descriptors).map Descriptor.claim).Pairwise (·.1.path < ·.1.path) := by
  rw [List.pairwise_map]
  exact pairwise_kept descriptors

/-! ## Descriptors with the same claims -/

section SameClaims

variable (h_claims :
  (descriptors.map Descriptor.claim).Perm (others.map Descriptor.claim))
include h_claims

theorem bearerCount_congr (identity : TypeIdentity) :
    bearerCount descriptors identity = bearerCount others identity := by
  rw [bearerCount_eq_count, bearerCount_eq_count]
  exact (h_claims.map Prod.fst).count_eq identity

theorem solelyClaims_congr (identity : TypeIdentity) (name : String) :
    SolelyClaims descriptors identity name ↔ SolelyClaims others identity name := by
  rw [solelyClaims_iff_mem, solelyClaims_iff_mem, bearerCount_congr h_claims, h_claims.mem_iff]

theorem duplicates_congr : duplicates descriptors = duplicates others := by
  refine eq_of_pairwise_key TypeIdentity.path (areFaults descriptors).duplicates_ordered
    (areFaults others).duplicates_ordered fun identity => ?_
  rw [mem_duplicates, mem_duplicates, bearerCount_congr h_claims]

theorem claimantIdentities_congr (name : String) :
    claimantIdentities descriptors name = claimantIdentities others name := by
  refine eq_of_pairwise_key TypeIdentity.path (pairwise_claimantIdentities _ _)
    (pairwise_claimantIdentities _ _) fun identity => ?_
  rw [mem_claimantIdentities, mem_claimantIdentities, solelyClaims_congr h_claims]

theorem clashes_congr : clashes descriptors = clashes others := by
  have h_names : Text.sorted ((unique descriptors).map (·.generatedName)) =
      Text.sorted ((unique others).map (·.generatedName)) := by
    -- A generated name is left over if some identity claims it and no other bears that identity.
    have h_mem (list : List Descriptor) (name : String) :
        name ∈ (unique list).map (·.generatedName) ↔
          ∃ identity, SolelyClaims list identity name := by
      simp [solelyClaims_iff]
    refine Text.sorted_congr fun name => ?_
    simp only [h_mem, solelyClaims_congr h_claims]
  rw [clashes, clashes, h_names]
  refine List.filterMap_congr fun name _ => ?_
  rw [clashAt?, clashAt?, claimantIdentities_congr h_claims]

/-- The findings of assembly depend on the claims alone. -/
theorem diagnostics_congr (options : Options) :
    (assemble descriptors options).diagnostics = (assemble others options).diagnostics := by
  simp only [diagnostics_assemble, duplicates_congr h_claims, clashes_congr h_claims,
    bearerCount_congr h_claims]

/-- So do the claims of the nodes. -/
theorem claims_kept_congr :
    (kept descriptors).map Descriptor.claim = (kept others).map Descriptor.claim := by
  refine eq_of_pairwise_key (·.1.path) (pairwise_claims_kept _) (pairwise_claims_kept _)
    fun claim => ?_
  simp only [mem_claims_kept, solelyClaims_congr h_claims]

end SameClaims

/-! ## Links to nodes with the same claims -/

/-- The reference to what has claimed the identity and the generated name. -/
def referenceOf (options : Options) (claim : TypeIdentity × String) : NestedReference where
  identity := claim.1
  deltaPath := claim.1.modulePath ++ "::" ++ options.deltasModule ++ "::" ++ claim.2

theorem target?_eq_claims (nodes : List Descriptor) (options : Options) (type : DeclaredType) :
    target? nodes options type = type.candidates.findSome? fun identity =>
      ((nodes.map Descriptor.claim).find? (·.1 == identity)).map (referenceOf options) := by
  simp only [target?, List.find?_map, Option.map_map]
  rfl

/-- A link depends on the claims of the nodes alone. -/
theorem link_congr {nodes others : List Descriptor}
    (h_claims : nodes.map Descriptor.claim = others.map Descriptor.claim) :
    link nodes options = link others options := by
  have h_property : linkProperty nodes options = linkProperty others options := by
    funext property
    rw [linkProperty, linkProperty, target?_eq_claims, target?_eq_claims, h_claims]
  funext descriptor
  rw [link, link, h_property]

@[simp] theorem claim_link (nodes : List Descriptor) (d : Descriptor) :
    (link nodes options d).claim = d.claim := by
  rw [Descriptor.claim, identity_link, generatedName_link, Descriptor.claim]

end Graph
end FieldDelta
