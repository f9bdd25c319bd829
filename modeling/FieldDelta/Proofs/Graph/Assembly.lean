import FieldDelta.Proofs.Description
import FieldDelta.Proofs.Graph.Membership

/-! # The specification of graph assembly

`Graph.IsAssembly` says what the graph of a list of descriptors is, in terms of how often
identities and generated names occur and of the graph itself: the links of a node are looked up in
the finished graph, not in a stage of its assembly.  `Graph.assemble_isAssembly` shows that
assembly meets it.

What needs an argument is that the two removal passes do not disturb one another.  The findings of
the second pass are about what the first one has left, and links are made to what both have left.
-/

namespace FieldDelta

namespace Graph

/-! ## The specification -/

/-- The reference to the node of an identity, if the graph has one. -/
def referenceTo? (graph : Graph) (options : Options) (identity : TypeIdentity) :
    Option NestedReference :=
  (graph.get? identity).map fun node =>
    { identity := identity, deltaPath := deltaTypePath node options }

/-- Several identities, each carried by one descriptor, that claim one generated name. -/
structure Clash where
  generatedName : String
  first : TypeIdentity
  others : List TypeIdentity

namespace Clash

/-- The identities of a clash. -/
def identities (clash : Clash) : List TypeIdentity :=
  clash.first :: clash.others

/-- The finding about a clash. -/
def finding (clash : Clash) : Diagnostic :=
  nameClash clash.generatedName clash.first clash.others

end Clash

/-- The faults that assembly finds: the identities that are carried several times, in order, and
    the clashes of the identities that are carried once, in the order of their names. -/
structure AreFaults (descriptors : List Descriptor) (duplicates : List TypeIdentity)
    (clashes : List Clash) : Prop where
  duplicates_ordered : duplicates.Pairwise TypeIdentity.Before
  mem_duplicates : ∀ identity, identity ∈ duplicates ↔ 2 ≤ bearerCount descriptors identity
  clashes_ordered : clashes.Pairwise (·.generatedName < ·.generatedName)
  exists_clash : ∀ name, (∃ clash ∈ clashes, clash.generatedName = name) ↔
    ∃ a b, a ≠ b ∧ SolelyClaims descriptors a name ∧ SolelyClaims descriptors b name
  identities_ordered : ∀ clash ∈ clashes, clash.identities.Pairwise TypeIdentity.Before
  mem_identities : ∀ clash ∈ clashes, ∀ identity, identity ∈ clash.identities ↔
    SolelyClaims descriptors identity clash.generatedName

/-- What the graph of a list of descriptors is. -/
structure IsAssembly (descriptors : List Descriptor) (options : Options) (graph : Graph) :
    Prop where
  /-- The nodes are the identities that one descriptor carries and whose generated name no other
      such identity claims. -/
  node_iff : ∀ identity, (∃ node ∈ graph.nodes, node.identity = identity) ↔
    ∃ name, SolelyClaims descriptors identity name ∧
      ∀ other, SolelyClaims descriptors other name → other = identity
  nodes_ordered : graph.nodes.Pairwise fun a b => a.identity.Before b.identity
  /-- One finding for each fault, and none else. -/
  findings : ∃ duplicates clashes, AreFaults descriptors duplicates clashes ∧
    graph.diagnostics =
      duplicates.map (fun identity =>
        duplicateIdentity identity (bearerCount descriptors identity)) ++
      clashes.map Clash.finding
  /-- But for its links, a node is the descriptor that carries its identity. -/
  origin : ∀ node ∈ graph.nodes, node.unlinked ∈ descriptors
  /-- A property refers to the first of its candidates that is a node. -/
  nested_eq : ∀ node ∈ graph.nodes, node.config.deepTracking = true →
    ∀ property ∈ node.properties,
      property.nested = property.type.candidates.findSome? (graph.referenceTo? options)
  references_ordered : ∀ node ∈ graph.nodes,
    node.nestedReferences.Pairwise TypeIdentity.Before
  mem_references : ∀ node ∈ graph.nodes, ∀ identity, identity ∈ node.nestedReferences ↔
    ∃ property ∈ node.properties, ∃ reference,
      property.nested = some reference ∧ reference.identity = identity
  /-- A descriptor that does not track deeply refers to nothing. -/
  shallow : ∀ node ∈ graph.nodes, node.config.deepTracking = false → node.IsUnlinked
  /-- Every reference leads to a node and names its delta type. -/
  closed : ∀ node ∈ graph.nodes, ∀ property ∈ node.properties, ∀ reference,
    property.nested = some reference → ∃ target, graph.get? reference.identity = some target ∧
      target.identity = reference.identity ∧ reference.deltaPath = deltaTypePath target options

variable {descriptors : List Descriptor} {options : Options}

/-! ## Findings -/

/-- The identities that are carried several times. -/
def duplicates (descriptors : List Descriptor) : List TypeIdentity :=
  (identities descriptors).filter fun identity => 2 ≤ bearerCount descriptors identity

theorem mem_duplicates {identity : TypeIdentity} :
    identity ∈ duplicates descriptors ↔ 2 ≤ bearerCount descriptors identity := by
  simp only [duplicates, List.mem_filter, decide_eq_true_eq]
  refine and_iff_right_of_imp fun h_several => ?_
  have h_mem : identity ∈ descriptors.map (·.identity) :=
    List.count_pos_iff.mp (Nat.lt_of_lt_of_le Nat.two_pos h_several)
  obtain ⟨d, h_d, h_identity⟩ := List.mem_map.mp h_mem
  exact mem_identities.mpr ⟨d, h_d, h_identity⟩

theorem identityFindings_eq (descriptors : List Descriptor) :
    identityFindings descriptors = (duplicates descriptors).map fun identity =>
      duplicateIdentity identity (bearerCount descriptors identity) := by
  rw [duplicates, ← List.filterMap_eq_map, List.filterMap_filter, identityFindings]
  refine List.filterMap_congr fun identity _ => ?_
  rw [length_bearers]
  match h_count : bearerCount descriptors identity with
  | 0 => rfl
  | 1 => rfl
  | count + 2 => simp [h_count]

/-- The clash of a generated name, if several identities claim it. -/
def clashAt? (descriptors : List Descriptor) (generatedName : String) : Option Clash :=
  match claimantIdentities descriptors generatedName with
  | first :: second :: others => some ⟨generatedName, first, second :: others⟩
  | _ => none

/-- The clashes of the identities that are carried once. -/
def clashes (descriptors : List Descriptor) : List Clash :=
  (Text.sorted ((unique descriptors).map (·.generatedName))).filterMap (clashAt? descriptors)

theorem clashAt?_eq_some {name : String} {clash : Clash}
    (h_clash : clashAt? descriptors name = some clash) :
    clash.generatedName = name ∧ clash.identities = claimantIdentities descriptors name ∧
      clash.others ≠ [] := by
  unfold clashAt? at h_clash
  split at h_clash
  next first second others h_claimants =>
    cases h_clash
    exact ⟨rfl, h_claimants.symm, List.cons_ne_nil _ _⟩
  next => cases h_clash

theorem clashAt?_isSome {name : String} {a b : TypeIdentity} (h_ne : a ≠ b)
    (h_a : SolelyClaims descriptors a name) (h_b : SolelyClaims descriptors b name) :
    ∃ clash, clashAt? descriptors name = some clash := by
  rw [← mem_claimantIdentities] at h_a h_b
  unfold clashAt?
  -- Two different claimants leave no room for a list of fewer than two.
  match h_claimants : claimantIdentities descriptors name with
  | [] => simp [h_claimants] at h_a
  | [only] =>
    rw [h_claimants, List.mem_singleton] at h_a h_b
    exact absurd (h_a.trans h_b.symm) h_ne
  | first :: second :: others => exact ⟨_, rfl⟩

theorem nameFindings_eq (descriptors : List Descriptor) :
    nameFindings (unique descriptors) = (clashes descriptors).map Clash.finding := by
  rw [clashes, List.map_filterMap, nameFindings]
  refine List.filterMap_congr fun name _ => ?_
  show (match claimantIdentities descriptors name with
    | first :: second :: others => some (nameClash name first (second :: others))
    | _ => none) = _
  unfold clashAt?
  split <;> rfl

/-- What assembly reports: identities with several bearers, then clashes of names. -/
theorem diagnostics_assemble (descriptors : List Descriptor) (options : Options) :
    (assemble descriptors options).diagnostics =
      (duplicates descriptors).map (fun identity =>
        duplicateIdentity identity (bearerCount descriptors identity)) ++
      (clashes descriptors).map Clash.finding := by
  rw [← identityFindings_eq, ← nameFindings_eq]
  rfl

/-- A name that two identities claim is among those that clashes are looked for at. -/
theorem exists_mem_clashes {name : String} :
    (∃ clash ∈ clashes descriptors, clash.generatedName = name) ↔
      ∃ a b, a ≠ b ∧ SolelyClaims descriptors a name ∧ SolelyClaims descriptors b name := by
  constructor
  · rintro ⟨clash, h_clash, rfl⟩
    obtain ⟨name, -, h_at⟩ := List.mem_filterMap.mp h_clash
    obtain ⟨h_name, h_identities, h_others⟩ := clashAt?_eq_some h_at
    obtain ⟨second, rest, h_second⟩ := List.exists_cons_of_ne_nil h_others
    -- The first two identities of a clash are in strict order, so they differ.
    have h_order := pairwise_claimantIdentities descriptors name
    rw [← h_identities, Clash.identities, h_second] at h_order
    have h_before := (List.pairwise_cons.mp h_order).1 second (List.mem_cons_self ..)
    refine ⟨clash.first, second, fun h_eq => ?_, ?_, ?_⟩
    · exact String.lt_irrefl _ (h_eq ▸ h_before : second.Before second)
    · rw [h_name, ← mem_claimantIdentities, ← h_identities]
      exact List.mem_cons_self ..
    · rw [h_name, ← mem_claimantIdentities, ← h_identities, Clash.identities, h_second]
      exact List.mem_cons_of_mem _ (List.mem_cons_self ..)
  · rintro ⟨a, b, h_ne, h_a, h_b⟩
    obtain ⟨clash, h_clash⟩ := clashAt?_isSome h_ne h_a h_b
    obtain ⟨d, h_d, -, h_name⟩ := solelyClaims_iff.mp h_a
    have h_sorted : name ∈ Text.sorted ((unique descriptors).map (·.generatedName)) :=
      Text.mem_sorted.mpr (List.mem_map.mpr ⟨d, h_d, h_name⟩)
    exact ⟨clash, List.mem_filterMap.mpr ⟨name, h_sorted, h_clash⟩, (clashAt?_eq_some h_clash).1⟩

theorem areFaults (descriptors : List Descriptor) :
    AreFaults descriptors (duplicates descriptors) (clashes descriptors) where
  duplicates_ordered := (pairwise_identities descriptors).filter _
  mem_duplicates _ := mem_duplicates
  clashes_ordered := by
    rw [clashes, List.pairwise_filterMap]
    refine (Text.pairwise_sorted _).imp fun {m n} h_lt a h_a b h_b => ?_
    rw [(clashAt?_eq_some h_a).1, (clashAt?_eq_some h_b).1]
    exact h_lt
  exists_clash _ := exists_mem_clashes
  identities_ordered clash h_clash := by
    obtain ⟨name, -, h_at⟩ := List.mem_filterMap.mp h_clash
    rw [(clashAt?_eq_some h_at).2.1]
    exact pairwise_claimantIdentities descriptors name
  mem_identities clash h_clash identity := by
    obtain ⟨name, -, h_at⟩ := List.mem_filterMap.mp h_clash
    obtain ⟨h_name, h_identities, -⟩ := clashAt?_eq_some h_at
    rw [h_identities, h_name]
    exact mem_claimantIdentities

/-! ## Links -/

@[simp] theorem identity_link (nodes : List Descriptor) (d : Descriptor) :
    (link nodes options d).identity = d.identity := by
  unfold link
  split <;> rfl

@[simp] theorem generatedName_link (nodes : List Descriptor) (d : Descriptor) :
    (link nodes options d).generatedName = d.generatedName := by
  unfold link
  split <;> rfl

@[simp] theorem config_link (nodes : List Descriptor) (d : Descriptor) :
    (link nodes options d).config = d.config := by
  unfold link
  split <;> rfl

theorem unlinked_link (nodes : List Descriptor) (d : Descriptor) :
    (link nodes options d).unlinked = d.unlinked := by
  unfold link
  split
  · simp [Descriptor.unlinked, linkProperty, Property.unlinked, Function.comp_def]
  · rfl

theorem link_of_deep {nodes : List Descriptor} {d : Descriptor}
    (h_deep : d.config.deepTracking = true) :
    link nodes options d =
      { d with
        properties := d.properties.map (linkProperty nodes options)
        nestedReferences := (Text.sorted ((d.properties.map (linkProperty nodes options)).filterMap
          fun property => property.nested.map (·.identity.path))).map TypeIdentity.mk } := by
  unfold link
  rw [if_pos h_deep]

theorem link_of_shallow {nodes : List Descriptor} {d : Descriptor}
    (h_shallow : d.config.deepTracking = false) : link nodes options d = d := by
  unfold link
  rw [if_neg (by simp [h_shallow])]

theorem nodes_assemble :
    (assemble descriptors options).nodes =
      (kept descriptors).map (link (kept descriptors) options) :=
  rfl

/-- Links are looked up among the descriptors that are kept; the finished graph gives the same. -/
theorem referenceTo?_assemble (identity : TypeIdentity) :
    (assemble descriptors options).referenceTo? options identity =
      ((kept descriptors).find? (·.identity == identity)).map fun node =>
        { identity := node.identity, deltaPath := deltaTypePath node options } := by
  rw [referenceTo?, get?, nodes_assemble, List.find?_map, Option.map_map]
  simp only [Function.comp_def, identity_link]
  cases h_find : (kept descriptors).find? (·.identity == identity) with
  | none => rfl
  | some node =>
    have h_identity : node.identity = identity := by simpa using List.find?_some h_find
    simp [deltaTypePath, Descriptor.modulePath, h_identity]

theorem target?_eq (type : DeclaredType) :
    target? (kept descriptors) options type =
      type.candidates.findSome? ((assemble descriptors options).referenceTo? options) := by
  rw [target?, funext referenceTo?_assemble]

/-- The properties of a deep node are those of its descriptor, linked within the finished graph. -/
theorem mem_properties_link {d : Descriptor} (h_deep : d.config.deepTracking = true)
    {property : Property} :
    property ∈ (link (kept descriptors) options d).properties ↔
      ∃ plain ∈ d.properties, { plain with
        nested := plain.type.candidates.findSome?
          ((assemble descriptors options).referenceTo? options) } = property := by
  rw [link_of_deep h_deep]
  simp only [List.mem_map, linkProperty, target?_eq]

theorem mem_nestedReferences_link {d : Descriptor} (h_deep : d.config.deepTracking = true)
    {identity : TypeIdentity} :
    identity ∈ (link (kept descriptors) options d).nestedReferences ↔
      ∃ property ∈ (link (kept descriptors) options d).properties, ∃ reference,
        property.nested = some reference ∧ reference.identity = identity := by
  rw [link_of_deep h_deep]
  simp only [List.mem_map, Text.mem_sorted, List.mem_filterMap, Option.map_eq_some_iff]
  constructor
  · rintro ⟨path, ⟨property, h_property, reference, h_nested, rfl⟩, rfl⟩
    exact ⟨property, h_property, reference, h_nested, rfl⟩
  · rintro ⟨property, h_property, reference, h_nested, rfl⟩
    exact ⟨_, ⟨property, h_property, reference, h_nested, rfl⟩, rfl⟩

/-- A reference that is found in the graph leads to a node of it. -/
theorem referenceTo?_eq_some {graph : Graph} {identity : TypeIdentity}
    {reference : NestedReference}
    (h_reference : graph.referenceTo? options identity = some reference) :
    ∃ target, graph.get? reference.identity = some target ∧
      target.identity = reference.identity ∧
        reference.deltaPath = deltaTypePath target options := by
  obtain ⟨target, h_target, rfl⟩ := Option.map_eq_some_iff.mp h_reference
  exact ⟨target, h_target, by simpa using List.find?_some h_target, rfl⟩

/-! ## The nodes of an assembled graph -/

section Nodes

variable {node : Descriptor} (h_unlinked : ∀ d ∈ descriptors, d.IsUnlinked)
  (h_node : node ∈ (assemble descriptors options).nodes)
include h_unlinked h_node

/-- Every node is a kept descriptor with its links. -/
theorem exists_kept_of_mem_nodes :
    ∃ d ∈ kept descriptors, link (kept descriptors) options d = node ∧ d.IsUnlinked := by
  obtain ⟨d, h_d, h_link⟩ := List.mem_map.mp h_node
  exact ⟨d, h_d, h_link, h_unlinked d (mem_unique.mp (unique_of_kept h_d)).1⟩

theorem unlinked_mem_of_mem_nodes : node.unlinked ∈ descriptors := by
  obtain ⟨d, h_d, rfl, h_plain⟩ := exists_kept_of_mem_nodes h_unlinked h_node
  rw [unlinked_link, h_plain.unlinked_eq]
  exact (mem_unique.mp (unique_of_kept h_d)).1

theorem isUnlinked_of_shallow (h_shallow : node.config.deepTracking = false) :
    node.IsUnlinked := by
  obtain ⟨d, -, rfl, h_plain⟩ := exists_kept_of_mem_nodes h_unlinked h_node
  rw [config_link] at h_shallow
  rwa [link_of_shallow h_shallow]

theorem nested_of_deep (h_deep : node.config.deepTracking = true) {property : Property}
    (h_property : property ∈ node.properties) :
    property.nested =
      property.type.candidates.findSome? ((assemble descriptors options).referenceTo? options) := by
  obtain ⟨d, -, rfl, -⟩ := exists_kept_of_mem_nodes h_unlinked h_node
  rw [config_link] at h_deep
  obtain ⟨plain, -, rfl⟩ := (mem_properties_link h_deep).mp h_property
  rfl

theorem pairwise_nestedReferences : node.nestedReferences.Pairwise TypeIdentity.Before := by
  cases h_deep : node.config.deepTracking with
  | false => simp [(isUnlinked_of_shallow h_unlinked h_node h_deep).1]
  | true =>
    obtain ⟨d, -, rfl, -⟩ := exists_kept_of_mem_nodes h_unlinked h_node
    rw [config_link] at h_deep
    rw [link_of_deep h_deep, List.pairwise_map]
    exact Text.pairwise_sorted _

theorem mem_nestedReferences {identity : TypeIdentity} :
    identity ∈ node.nestedReferences ↔ ∃ property ∈ node.properties, ∃ reference,
      property.nested = some reference ∧ reference.identity = identity := by
  cases h_deep : node.config.deepTracking with
  | false =>
    -- Nothing is linked, so both sides are false.
    obtain ⟨h_references, h_properties⟩ := isUnlinked_of_shallow h_unlinked h_node h_deep
    rw [h_references]
    refine iff_of_false List.not_mem_nil fun ⟨property, h_property, reference, h_some, _⟩ => ?_
    rw [h_properties property h_property] at h_some
    cases h_some
  | true =>
    obtain ⟨d, -, rfl, -⟩ := exists_kept_of_mem_nodes h_unlinked h_node
    rw [config_link] at h_deep
    exact mem_nestedReferences_link h_deep

theorem get?_of_nested {property : Property} (h_property : property ∈ node.properties)
    {reference : NestedReference} (h_some : property.nested = some reference) :
    ∃ target, (assemble descriptors options).get? reference.identity = some target ∧
      target.identity = reference.identity ∧
        reference.deltaPath = deltaTypePath target options := by
  cases h_deep : node.config.deepTracking with
  | false =>
    rw [(isUnlinked_of_shallow h_unlinked h_node h_deep).2 property h_property] at h_some
    cases h_some
  | true =>
    rw [nested_of_deep h_unlinked h_node h_deep h_property] at h_some
    obtain ⟨identity, -, h_reference⟩ := List.exists_of_findSome?_eq_some h_some
    exact referenceTo?_eq_some h_reference

end Nodes

/-! ## Assembly meets its specification -/

/-- The graph that is assembled from descriptors is what the specification says. -/
theorem assemble_isAssembly (descriptors : List Descriptor) (options : Options)
    (h_unlinked : ∀ d ∈ descriptors, d.IsUnlinked) :
    IsAssembly descriptors options (assemble descriptors options) := by
  constructor
  case node_iff =>
    intro identity
    rw [← exists_kept, nodes_assemble]
    simp only [List.mem_map, exists_exists_and_eq_and, identity_link]
  case nodes_ordered =>
    rw [nodes_assemble, List.pairwise_map]
    simpa only [identity_link] using pairwise_kept descriptors
  case findings =>
    refine ⟨_, _, areFaults descriptors, ?_⟩
    rw [← identityFindings_eq, ← nameFindings_eq]
    rfl
  case origin => exact fun node h_node => unlinked_mem_of_mem_nodes h_unlinked h_node
  case nested_eq =>
    intro node h_node h_deep property h_property
    exact nested_of_deep h_unlinked h_node h_deep h_property
  case references_ordered => exact fun node h_node => pairwise_nestedReferences h_unlinked h_node
  case mem_references =>
    exact fun node h_node identity => mem_nestedReferences h_unlinked h_node
  case shallow =>
    exact fun node h_node h_shallow => isUnlinked_of_shallow h_unlinked h_node h_shallow
  case closed =>
    intro node h_node property h_property reference h_some
    exact get?_of_nested h_unlinked h_node h_property h_some

/-- A tree whose properties refer to itself, to a type that is declared twice and to one of two
    types that claim a generated name. -/
def tangledDescriptors : List Descriptor :=
  let type (path : String) : DeclaredType := { spelled := path, core := some ⟨path⟩ }
  [{ identity := ⟨"crate::tree::Tree"⟩
     generatedName := "TreeDelta"
     properties := [
       { name := "left", field := "left", member := "left", type := type "crate::tree::Tree" },
       { name := "twin", field := "twin", member := "twin", type := type "crate::m::Twin" },
       { name := "item", field := "item", member := "item", type := type "crate::a::Item" }] },
   { identity := ⟨"crate::m::Twin"⟩, generatedName := "TwinDelta" },
   { identity := ⟨"crate::b::Item"⟩, generatedName := "ItemDelta" },
   { identity := ⟨"crate::m::Twin"⟩, generatedName := "ItemDelta" },
   { identity := ⟨"crate::a::Item"⟩, generatedName := "ItemDelta" }]

theorem assemble_tangledDescriptors : (∀ d ∈ tangledDescriptors, d.IsUnlinked) ∧
    IsAssembly tangledDescriptors {} (assemble tangledDescriptors {}) :=
  ⟨by decide, assemble_isAssembly tangledDescriptors {} (by decide)⟩

end Graph
end FieldDelta
