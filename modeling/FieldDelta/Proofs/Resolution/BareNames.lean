import FieldDelta.Proofs.Compilation

/-! # What a bare name refers to

A property whose type is a bare name that no `use` item binds refers to a tracked type of its own
module, or else to one that a glob import brings in.  Which one is decided by the graph alone:
the first of these identities that is a node is taken (`Compilation.nested_of_bareName`).

So a node of the module itself is never hidden by a glob import.  A type that the module declares
but that is no node, because it is not tracked or could not be described, hides nothing: the
graph does not know it, and the property refers to a type of the same name from elsewhere.
-/

namespace FieldDelta

open Syntax

/-! ## Bare names -/

/-- The name that the core of a type consists of, if it is one name that may be declared. -/
def bareName? (type : Phrase) : Option String :=
  match (unwrap type).2 with
  | [.path path] =>
    match path.leading, path.names.map Naming.withoutRaw with
    | false, [name] => if Naming.pathKeywords.contains name then none else some name
    | _, _ => none
  | _ => none

/-- Whether a bare name is taken for a crate or for a type of the prelude. -/
def isForeign (name : String) : Bool :=
  externalRoots.contains name || preludeTypes.contains name

/-- What a name that no `use` item binds may stand for: the type of the module, then those
    that glob imports bring in. -/
def Resolver.meanings (resolver : Resolver) (name : String) : List TypeIdentity :=
  (resolver.modulePath :: resolver.scope.globs).map (TypeIdentity.declared · name)

theorem bareName?_eq_some {type : Phrase} {name : String} (h_bare : bareName? type = some name) :
    ∃ path, (unwrap type).2 = [.path path] ∧ path.leading = false ∧
      path.names.map Naming.withoutRaw = [name] ∧ name ∉ Naming.pathKeywords := by
  unfold bareName? at h_bare
  split at h_bare
  next path h_core =>
    split at h_bare
    next only h_leading h_names =>
      split at h_bare
      · cases h_bare
      next h_keyword =>
        obtain rfl := Option.some.inj h_bare
        exact ⟨path, h_core, h_leading, h_names, by simpa using h_keyword⟩
    · cases h_bare
  · cases h_bare

namespace Resolver

variable {resolver : Resolver}

/-- A declared type points where the core of the written type points. -/
theorem exists_resolved_of_declaredType {type : Phrase} {declared : DeclaredType}
    (h_declared : resolver.declaredType type = .ok declared) :
    ∃ resolved, resolver.resolveCore (unwrap type).2 = .ok resolved ∧
      declared.candidates = resolved.core.toList ++ resolved.globCandidates := by
  rw [declaredType_eq] at h_declared
  split at h_declared
  · cases h_declared
  next rehomed h_rehomed =>
    cases h_resolved : resolver.resolveCore (unwrap type).2 with
    | error unresolvable => rw [h_resolved] at h_declared; cases h_declared
    | ok resolved =>
      rw [h_resolved] at h_declared
      exact ⟨resolved, rfl, by rw [← Except.ok.inj h_declared]; rfl⟩

theorem absolute?_of_unbound {name : String} (h_keyword : name ∉ Naming.pathKeywords)
    (h_unbound : resolver.scope.binding? name = none) :
    resolver.absolute? name [] = .ok (if isForeign name then none else
      some (Text.segments resolver.modulePath ++ [name])) := by
  have h_anchor : ¬ (name = "crate" ∨ name = "self" ∨ name = "super") := by
    rintro (rfl | rfl | rfl) <;> exact h_keyword (by decide)
  unfold absolute?
  rw [if_neg h_anchor, h_unbound]
  change (if isForeign name then _ else _) = _
  split <;> rfl

theorem resolvePath_of_names {path : Path} {name : String} (h_leading : path.leading = false)
    (h_names : path.names.map Naming.withoutRaw = [name]) (h_keyword : name ∉ Naming.pathKeywords)
    (h_unbound : resolver.scope.binding? name = none) :
    resolver.resolvePath path = .ok (if isForeign name then {} else
      { core := some (.declared resolver.modulePath name)
        globCandidates := resolver.scope.globs.map (TypeIdentity.declared · name) }) := by
  have h_self : name ≠ "Self" := by
    rintro rfl
    exact h_keyword (by decide)
  have h_absolute := absolute?_of_unbound h_keyword h_unbound
  unfold resolvePath
  rw [h_leading, h_names]
  cases h_foreign : isForeign name with
  | true => simp [h_self, h_absolute, h_foreign]
  | false =>
    simp [h_self, h_absolute, h_foreign, ← TypeIdentity.path_declared, globCandidates, h_unbound]

/-- A bare name that no `use` item binds may have any of its meanings, in order, unless it is
    taken for something outside the crate. -/
theorem candidates_of_bareName {type : Phrase} {name : String} {declared : DeclaredType}
    (h_bare : bareName? type = some name) (h_unbound : resolver.scope.binding? name = none)
    (h_declared : resolver.declaredType type = .ok declared) :
    declared.candidates = if isForeign name then [] else resolver.meanings name := by
  obtain ⟨path, h_core, h_leading, h_names, h_keyword⟩ := bareName?_eq_some h_bare
  obtain ⟨resolved, h_resolved, h_candidates⟩ := exists_resolved_of_declaredType h_declared
  rw [h_core, resolveCore, resolvePath_of_names h_leading h_names h_keyword h_unbound,
    Except.ok.injEq] at h_resolved
  rw [h_candidates, ← h_resolved]
  split <;> rfl

end Resolver

/-! ## References of properties -/

namespace Graph

/-- Whether the graph has a node with the identity. -/
def isNode (graph : Graph) (identity : TypeIdentity) : Bool :=
  (graph.get? identity).isSome

/-- A property that may refer to any of several identities refers to the first that is a node. -/
theorem identity_findSome?_referenceTo? (graph : Graph) (options : Options)
    (identities : List TypeIdentity) :
    (identities.findSome? (graph.referenceTo? options)).map (·.identity) =
      identities.find? graph.isNode := by
  induction identities with
  | nil => rfl
  | cons identity rest ih =>
    rw [List.findSome?_cons, List.find?_cons, isNode, referenceTo?]
    cases graph.get? identity with
    | none => exact ih
    | some node => rfl

end Graph

/-- The name of the type that an item declares. -/
def Syntax.Item.typeName? : Item → Option String
  | .struct decl _ => some (Naming.withoutRaw decl.name)
  | .enum decl _ => some (Naming.withoutRaw decl.name)
  | .union decl _ => some (Naming.withoutRaw decl.name)
  | _ => none

/-- The names of the types that the items of a file declare. -/
def Source.typeNames (source : Source) : List String :=
  ((parseFile? source.text).getD []).filterMap Item.typeName?

namespace Compilation

variable {compilation : Compilation} {node : Descriptor} {property : Property}

theorem identity_nested (h_node : node ∈ compilation.graph.nodes)
    (h_property : property ∈ node.properties) :
    property.nested.map (·.identity) =
      if node.config.deepTracking then property.type.candidates.find? compilation.graph.isNode
      else none := by
  have h_unlinked := compilation.isUnlinked_of_mem_descriptors
  split
  next h_deep =>
    rw [Graph.nested_of_deep h_unlinked h_node h_deep h_property, ← graph_eq]
    exact Graph.identity_findSome?_referenceTo? _ _ _
  next h_shallow =>
    have h_plain := Graph.isUnlinked_of_shallow h_unlinked h_node (Bool.eq_false_iff.mpr h_shallow)
    rw [h_plain.2 property h_property]
    rfl

/-- Every property is written in the declaration of its node.  One that is written as a bare name
    that is not bound refers to the first meaning of the name that is a node, and so to the type
    of its own module if that is one. -/
theorem nested_of_bareName (compilation : Compilation) (h_node : node ∈ compilation.graph.nodes)
    (h_property : property ∈ node.properties) :
    ∃ candidate ∈ compilation.candidates, (describe candidate).descriptor = some node.unlinked ∧
      (∃ type, candidate.Declares property type) ∧
      ∀ type name, candidate.Declares property type → bareName? type = some name →
        candidate.scope.binding? name = none →
        property.nested.map (·.identity) =
          (if node.config.deepTracking && !isForeign name then
            (candidate.resolver.meanings name).find? compilation.graph.isNode
          else none) ∧
        (compilation.graph.isNode (.declared node.modulePath name) = true →
          ∀ reference, property.nested = some reference →
            reference.identity = .declared node.modulePath name) := by
  obtain ⟨candidate, h_candidate, h_identity, h_described⟩ := exists_candidate_of_mem_nodes h_node
  have h_unlinked : property.unlinked ∈ node.unlinked.properties := List.mem_map_of_mem h_property
  -- A property is declared as it is before it is linked.
  have h_declares := exists_declares_of_describe h_described h_unlinked
  refine ⟨candidate, h_candidate, h_described, h_declares, ?_⟩
  rintro type name ⟨offset, field, -, -, -, h_type⟩ h_bare h_unbound
  have h_nested : property.nested.map (·.identity) =
      if node.config.deepTracking && !isForeign name then
        (candidate.resolver.meanings name).find? compilation.graph.isNode
      else none := by
    rw [identity_nested h_node h_property,
      Resolver.candidates_of_bareName h_bare h_unbound h_type]
    cases node.config.deepTracking <;> cases isForeign name <;> rfl
  refine ⟨h_nested, fun h_own reference h_reference => ?_⟩
  have h_meanings : (candidate.resolver.meanings name).find? compilation.graph.isNode =
      some (.declared node.modulePath name) := by
    have h_module : candidate.resolver.modulePath = node.modulePath :=
      congrArg TypeIdentity.modulePath h_identity
    rw [Resolver.meanings, h_module, List.map_cons, List.find?_cons, h_own]
  rw [h_meanings, h_reference] at h_nested
  split at h_nested
  · exact Option.some.inj h_nested
  · cases h_nested

/-- Two tracked types called `N`; one is beside the property, and a glob import brings in the
    other. -/
def shadowingCompilation : Compilation where
  sources := [
    { modulePath := "crate", path := "lib.rs", text := "#[derive(TrackDelta)] struct N;" },
    { modulePath := "crate::m"
      path := "m.rs"
      text := "use super::*; #[derive(TrackDelta)] struct O \x7b pub n: N \x7d #[derive(TrackDelta)]
        #[delta(suffix = \"D\")] struct N;" }]

theorem nested_shadowingCompilation :
    ∃ node ∈ shadowingCompilation.graph.nodes, ∃ property ∈ node.properties,
      property.nested.map (·.identity) = some ⟨"crate::m::N"⟩ ∧
      ∃ candidate ∈ shadowingCompilation.candidates,
        (describe candidate).descriptor = some node.unlinked ∧
        (∃ type, candidate.Declares property type) ∧
        ∀ type name, candidate.Declares property type → bareName? type = some name →
          candidate.scope.binding? name = none →
          property.nested.map (·.identity) =
            (if node.config.deepTracking && !isForeign name then
              (candidate.resolver.meanings name).find? shadowingCompilation.graph.isNode
            else none) ∧
          (shadowingCompilation.graph.isNode (.declared node.modulePath name) = true →
            ∀ reference, property.nested = some reference →
              reference.identity = .declared node.modulePath name) := by
  have h_nested : ∃ node ∈ shadowingCompilation.graph.nodes, ∃ property ∈ node.properties,
      property.nested.map (·.identity) = some ⟨"crate::m::N"⟩ := by
    decide +kernel
  obtain ⟨node, h_node, property, h_property, h_identity⟩ := h_nested
  exact ⟨node, h_node, property, h_property, h_identity,
    nested_of_bareName shadowingCompilation h_node h_property⟩

/-- A module that declares `N` without tracking it. -/
def untrackedModule : Source where
  modulePath := "crate::m"
  path := "m.rs"
  text := "use super::*; struct N; #[derive(TrackDelta)] struct O \x7b pub n: N \x7d"

/-- The module with a tracked `N` that its glob import brings in. -/
def overriddenCompilation : Compilation where
  sources := [
    { modulePath := "crate", path := "lib.rs", text := "#[derive(TrackDelta)] struct N;" },
    untrackedModule]

theorem nested_overriddenCompilation :
    untrackedModule.typeNames = ["N", "O"] ∧
    overriddenCompilation.candidates.map (fun candidate =>
        (candidate.identity, candidate.scope.binding? "N",
          candidate.fields.map fun field => (field.name, bareName? field.type))) =
      [(⟨"crate::N"⟩, none, []), (⟨"crate::m::O"⟩, none, [(some "n", some "N")])] ∧
    overriddenCompilation.graph.nodes.map (fun node =>
        (node.identity, node.properties.map fun property =>
          (property.field, property.nested.map (·.identity)))) =
      [(⟨"crate::N"⟩, []), (⟨"crate::m::O"⟩, [("n", some ⟨"crate::N"⟩)])] := by
  refine ⟨?_, ?_, ?_⟩ <;> decide +kernel

end Compilation
end FieldDelta
