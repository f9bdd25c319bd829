import FieldDelta.Proofs.Compilation
import FieldDelta.Proofs.Syntax.Words
import Mathlib.Data.List.Nodup

/-! # The names of generated files

Names of files come from three schemes: one fixed name for the support unit, the generated name
of a type for its delta unit, and the key of a module for its manifest.  Delta units never meet
one another or a manifest.  What is left are two ways to write one file twice.

* A type is named so that its delta unit falls on the support unit.
* Two modules have one key.  A key is read back unambiguously as long as no module name contains
  two underscores in a row or ends in one (`moduleKey_inj`), but not otherwise.

`Compilation.nodup_fileNames_iff` says that there is no third.
-/

namespace FieldDelta

/-! ## Reading keys back -/

namespace Naming

/-- What stands between the names of a key. -/
def keyMark : List Char :=
  ['_', '_']

/-- Whether the end of a name shows in a key: the mark behind the name is the first one. -/
def EndsAtMark (name : List Char) : Prop :=
  ¬ keyMark <:+: name ++ ['_']

instance (name : List Char) : Decidable (EndsAtMark name) :=
  inferInstanceAs (Decidable (¬ _))

theorem EndsAtMark.not_infix {name : List Char} (h_name : EndsAtMark name) :
    ¬ keyMark <:+: name :=
  fun h_inside => h_name (h_inside.trans (List.prefix_append name _).isInfix)

/-- A name that starts with another one in front of a mark does not go on behind it. -/
theorem EndsAtMark.eq_nil_of_append {name more rest rest' : List Char}
    (h_name : EndsAtMark (name ++ more)) (h_rest : keyMark ++ rest = more ++ (keyMark ++ rest')) :
    more = [] := by
  match more with
  | [] => rfl
  | [c] =>
    obtain ⟨rfl, -⟩ := List.cons.inj h_rest
    exact absurd ⟨name, [], by simp [keyMark]⟩ h_name
  | c :: d :: more =>
    obtain ⟨rfl, h_tail⟩ := List.cons.inj h_rest
    obtain ⟨rfl, -⟩ := List.cons.inj h_tail
    exact absurd ⟨name, more ++ ['_'], by simp [keyMark]⟩ h_name

theorem eq_of_append_keyMark {name other rest rest' : List Char} (h_name : EndsAtMark name)
    (h_other : EndsAtMark other) (h_eq : name ++ (keyMark ++ rest) = other ++ (keyMark ++ rest')) :
    name = other ∧ rest = rest' := by
  have h_names : name = other := by
    rcases List.append_eq_append_iff.mp h_eq with ⟨more, rfl, h_rest⟩ | ⟨more, rfl, h_rest⟩
    · rw [h_other.eq_nil_of_append h_rest, List.append_nil]
    · rw [h_name.eq_nil_of_append h_rest, List.append_nil]
  subst h_names
  exact ⟨rfl, List.append_cancel_left (List.append_cancel_left h_eq)⟩

/-- Names whose ends show can be read back from what they are put together to. -/
theorem intercalate_keyMark_inj {names others : List (List Char)} (h_nonempty : names ≠ [])
    (h_nonempty' : others ≠ []) (h_names : ∀ name ∈ names, EndsAtMark name)
    (h_others : ∀ name ∈ others, EndsAtMark name)
    (h_eq : keyMark.intercalate names = keyMark.intercalate others) : names = others := by
  induction names generalizing others with
  | nil => exact absurd rfl h_nonempty
  | cons name names ih =>
    obtain ⟨other, others, rfl⟩ := List.exists_cons_of_ne_nil h_nonempty'
    obtain ⟨h_name, h_names⟩ := List.forall_mem_cons.mp h_names
    obtain ⟨h_other, h_others⟩ := List.forall_mem_cons.mp h_others
    match names, others with
    | [], [] => simpa using h_eq
    | [], next :: others =>
      rw [List.intercalate_singleton, List.intercalate_cons_cons] at h_eq
      exact absurd (h_eq ▸ List.infix_append other keyMark _) h_name.not_infix
    | next :: names, [] =>
      rw [List.intercalate_singleton, List.intercalate_cons_cons] at h_eq
      exact absurd (h_eq ▸ List.infix_append name keyMark _) h_other.not_infix
    | next :: names, next' :: others =>
      simp only [List.intercalate_cons_cons, List.append_assoc] at h_eq
      obtain ⟨rfl, h_rest⟩ := eq_of_append_keyMark h_name h_other h_eq
      rw [ih (List.cons_ne_nil _ _) (List.cons_ne_nil _ _) h_names h_others h_rest]

/-- A module name that may stand anywhere in a key.  Only the last part excludes names that a
    module can be given. -/
structure IsSeparable (name : String) : Prop where
  ne_empty : name ≠ ""
  ne_crate : name ≠ "crate"
  no_colon : ':' ∉ name.toList
  endsAtMark : EndsAtMark name.toList

/-- The names that the key of a module below the crate root is put together from. -/
def keyNames : List String → List String
  | [] => ["crate"]
  | names => names

theorem moduleKey_eq {names : List String} (h_names : ∀ name ∈ names, IsSeparable name) :
    moduleKey (Text.joinSegments ("crate" :: names)) = "__".intercalate (keyNames names) := by
  have h_colons : ∀ name ∈ "crate" :: names, ':' ∉ name.toList :=
    List.forall_mem_cons.mpr ⟨by decide, fun name h_name => (h_names name h_name).no_colon⟩
  have h_filter : ("crate" :: names).filter (fun s => s != "" && s != "crate") = names := by
    rw [List.filter_cons_of_neg (by decide), List.filter_eq_self]
    intro name h_name
    simp [(h_names name h_name).ne_empty, (h_names name h_name).ne_crate]
  rw [moduleKey, Text.segments_joinSegments (List.cons_ne_nil _ _) h_colons, h_filter]
  cases names <;> rfl

theorem keyNames_inj {names others : List String} (h_names : ∀ name ∈ names, IsSeparable name)
    (h_others : ∀ name ∈ others, IsSeparable name) (h_eq : keyNames names = keyNames others) :
    names = others := by
  match names, others with
  | [], [] => rfl
  | [], other :: others =>
    cases h_eq
    exact absurd rfl (h_others "crate" (List.mem_singleton_self _)).ne_crate
  | name :: names, [] =>
    cases h_eq
    exact absurd rfl (h_names "crate" (List.mem_singleton_self _)).ne_crate
  | name :: names, other :: others => exact h_eq

theorem endsAtMark_of_mem_keyNames {names : List String}
    (h_names : ∀ name ∈ names, IsSeparable name) :
    ∀ name ∈ (keyNames names).map String.toList, EndsAtMark name := by
  cases names with
  | nil => decide
  | cons first rest =>
    change ∀ name ∈ (first :: rest).map String.toList, EndsAtMark name
    exact List.forall_mem_map.mpr fun name h_name => (h_names name h_name).endsAtMark

/-- The module `modulePath` lies below the crate root under names that may stand in a key. -/
def IsSeparableModule (modulePath : String) : Prop :=
  ∃ names, modulePath = Text.joinSegments ("crate" :: names) ∧ ∀ name ∈ names, IsSeparable name

/-- Modules with such names have different keys. -/
theorem moduleKey_inj {modulePath other : String} (h_module : IsSeparableModule modulePath)
    (h_other : IsSeparableModule other) (h_eq : moduleKey modulePath = moduleKey other) :
    modulePath = other := by
  obtain ⟨names, rfl, h_names⟩ := h_module
  obtain ⟨others, rfl, h_others⟩ := h_other
  rw [moduleKey_eq h_names, moduleKey_eq h_others, ← String.toList_inj,
    String.toList_intercalate, String.toList_intercalate] at h_eq
  have h_keyNames : (keyNames names).map String.toList = (keyNames others).map String.toList := by
    refine intercalate_keyMark_inj ?_ ?_ (endsAtMark_of_mem_keyNames h_names)
      (endsAtMark_of_mem_keyNames h_others) h_eq
    · cases names <;> simp [keyNames]
    · cases others <;> simp [keyNames]
  have h_toList : Function.Injective String.toList := fun _ _ => String.toList_injective
  rw [keyNames_inj h_names h_others (List.map_injective_iff.mpr h_toList h_keyNames)]

/-! ## The three schemes -/

theorem deltaUnitFileName_inj {generatedName other : String} :
    deltaUnitFileName generatedName = deltaUnitFileName other ↔ generatedName = other :=
  String.append_left_inj _

theorem manifestFileName_inj {modulePath other : String} :
    manifestFileName modulePath = manifestFileName other ↔ moduleKey modulePath = moduleKey other :=
  String.append_left_inj _

/-- Delta units differ in the last five characters of their names from all that manifests can be
    called. -/
theorem deltaUnitFileName_ne_append (generatedName key : String) :
    deltaUnitFileName generatedName ≠ key ++ ".deltas.rs" := by
  intro h_eq
  have h_ends : generatedName.toList ++ ".g.rs".toList
      = (key.toList ++ ".delt".toList) ++ "as.rs".toList := by
    rw [List.append_assoc, ← String.toList_append]
    simpa [deltaUnitFileName, ← String.toList_inj] using h_eq
  exact absurd (List.append_inj_right' h_ends rfl) (by decide)

theorem deltaUnitFileName_ne_manifestFileName (generatedName modulePath : String) :
    deltaUnitFileName generatedName ≠ manifestFileName modulePath :=
  deltaUnitFileName_ne_append _ _

end Naming

/-! ## The characters of generated names -/

namespace Marker

theorem isIdentifierFragment_applyArgument {config : TrackingConfig}
    (h_config : isIdentifierFragment config.suffix = true) (argument : Argument) :
    isIdentifierFragment (applyArgument config argument).1.suffix = true := by
  unfold applyArgument
  split
  · unfold applySuffix
    split
    · split
      · exact h_config
      · split
        · exact h_config
        next h_fragment => simpa using h_fragment
    · exact h_config
  · split <;> exact h_config
  · split <;> exact h_config
  · exact h_config

theorem isIdentifierFragment_applyArguments {config : TrackingConfig}
    (h_config : isIdentifierFragment config.suffix = true) (arguments : List Argument) :
    isIdentifierFragment (applyArguments config arguments).1.suffix = true := by
  induction arguments generalizing config with
  | nil => exact h_config
  | cons first rest ih => exact ih (isIdentifierFragment_applyArgument h_config first)

theorem isIdentifierFragment_applyAttributes {config : TrackingConfig}
    (h_config : isIdentifierFragment config.suffix = true) (attributes : List Syntax.Attribute) :
    isIdentifierFragment (applyAttributes config attributes).1.suffix = true := by
  induction attributes generalizing config with
  | nil => exact h_config
  | cons first rest ih => exact ih (isIdentifierFragment_applyArguments h_config _)

end Marker

/-- A delta type is called like its type with the suffix behind it. -/
theorem generatedName_of_describe {candidate : Candidate} {d : Descriptor}
    (h_described : (describe candidate).descriptor = some d) :
    d.generatedName = candidate.identity.name ++ d.config.suffix := by
  obtain ⟨decl, fields, -, rfl⟩ := describe_eq_some h_described
  rfl

theorem isIdentifierFragment_of_describe {candidate : Candidate} {d : Descriptor}
    (h_described : (describe candidate).descriptor = some d) :
    Marker.isIdentifierFragment d.config.suffix = true := by
  obtain ⟨decl, fields, -, rfl⟩ := describe_eq_some h_described
  exact Marker.isIdentifierFragment_applyAttributes (by decide +kernel) _

/-- A character that cannot stand in a name: neither identifiers nor suffixes hold it. -/
def IsForeign (c : Char) : Prop :=
  Unicode.isIdentifierStart c = false ∧ Unicode.isIdentifierContinue c = false ∧
    (c == '_' || Unicode.isAlphanumeric c) = false

instance (c : Char) : Decidable (IsForeign c) :=
  inferInstanceAs (Decidable (_ ∧ _))

/-- The name of a delta type holds no such character. -/
theorem IsForeign.not_mem_of_describe {c : Char} {modulePath label text : String}
    {candidate : Candidate} {d : Descriptor} (h_c : IsForeign c)
    (h_candidate : candidate ∈ (collect modulePath label text).candidates)
    (h_described : (describe candidate).descriptor = some d) : c ∉ d.generatedName.toList := by
  obtain ⟨h_start, h_continue, h_fragment⟩ := h_c
  have h_name : c ∉ candidate.identity.name.toList :=
    (isIdentifier_of_collect h_candidate).not_mem h_start h_continue
  rw [generatedName_of_describe h_described, String.toList_append, List.mem_append]
  refine not_or.mpr ⟨h_name, fun h_mem => ?_⟩
  rw [List.all_eq_true.mp (isIdentifierFragment_of_describe h_described) c h_mem] at h_fragment
  cases h_fragment

theorem IsForeign.not_mem_of_mem_nodes {c : Char} {compilation : Compilation} {node : Descriptor}
    (h_c : IsForeign c) (h_node : node ∈ compilation.graph.nodes) :
    c ∉ node.generatedName.toList := by
  obtain ⟨candidate, h_candidate, -, h_described⟩ := Compilation.exists_candidate_of_mem_nodes h_node
  obtain ⟨source, -, h_candidate⟩ := Compilation.mem_candidates.mp h_candidate
  show c ∉ node.unlinked.generatedName.toList
  exact h_c.not_mem_of_describe h_candidate h_described

/-! ## The files of a generation -/

/-- The names of all files, in the order of the units. -/
def Generation.fileNames (generation : Generation) : List String :=
  generation.units.map (·.fileName)

namespace Graph

variable {descriptors : List Descriptor} {options : Options}

/-- No two nodes have one generated name. -/
theorem nodup_generatedName_assemble :
    ((assemble descriptors options).nodes.map (·.generatedName)).Nodup := by
  rw [nodes_assemble, List.map_map, List.Nodup, List.pairwise_map]
  simp only [Function.comp_apply, generatedName_link]
  refine (pairwise_kept descriptors).imp_of_mem fun {d e} h_d h_e h_before h_name => ?_
  -- Both claim the name, so they are one and the same identity.
  have h_claims : SolelyClaims descriptors e.identity d.generatedName :=
    solelyClaims_iff.mpr ⟨e, unique_of_kept h_e, rfl, h_name.symm⟩
  rw [TypeIdentity.Before, (mem_kept.mp h_d).2 _ h_claims] at h_before
  exact String.lt_irrefl _ h_before

end Graph

namespace Compilation

variable {compilation : Compilation}

/-- The modules with a manifest. -/
def modules (compilation : Compilation) : List String :=
  manifestModules compilation.candidates compilation.graph

theorem nodup_modules (compilation : Compilation) : compilation.modules.Nodup :=
  (Text.pairwise_sorted _).imp String.ne_of_lt

/-- A module gets a manifest exactly if a candidate stands in it. -/
theorem mem_modules {modulePath : String} :
    modulePath ∈ compilation.modules ↔
      ∃ candidate ∈ compilation.candidates, candidate.modulePath = modulePath := by
  simp only [modules, manifestModules, Text.mem_sorted, List.mem_append, List.mem_map]
  refine or_iff_left_of_imp ?_
  rintro ⟨node, h_node, rfl⟩
  obtain ⟨candidate, h_candidate, h_identity, -⟩ := exists_candidate_of_mem_nodes h_node
  exact ⟨candidate, h_candidate, congrArg TypeIdentity.modulePath h_identity⟩

theorem fileNames_generate (compilation : Compilation) :
    compilation.generate.fileNames =
      compilation.options.supportUnit?.toList.map (·.fileName) ++
      (compilation.graph.nodes.map (·.generatedName)).map Naming.deltaUnitFileName ++
      compilation.modules.map Naming.manifestFileName := by
  simp only [Generation.fileNames, generate, generationOf, manifests, List.map_append, List.map_map]
  rfl

theorem nodup_supportNames (options : Options) :
    (options.supportUnit?.toList.map (·.fileName)).Nodup := by
  unfold Options.supportUnit?
  split <;> simp

theorem mem_supportNames {options : Options} {name : String} :
    name ∈ options.supportUnit?.toList.map (·.fileName) ↔
      options.supportScheduled = false ∧ name = Naming.deltaUnitFileName "DeltaSupport" := by
  have h_name : SupportUnit.emit.fileName = Naming.deltaUnitFileName "DeltaSupport" := by decide
  unfold Options.supportUnit?
  split <;> simp_all

theorem nodup_deltaUnitNames (compilation : Compilation) :
    ((compilation.graph.nodes.map (·.generatedName)).map Naming.deltaUnitFileName).Nodup :=
  Graph.nodup_generatedName_assemble.map fun _ _ => Naming.deltaUnitFileName_inj.mp

theorem nodup_manifestNames :
    (compilation.modules.map Naming.manifestFileName).Nodup ↔
      ∀ a ∈ compilation.candidates, ∀ b ∈ compilation.candidates,
        Naming.moduleKey a.modulePath = Naming.moduleKey b.modulePath →
          a.modulePath = b.modulePath := by
  rw [List.nodup_map_iff_inj_on compilation.nodup_modules]
  simp only [Naming.manifestFileName_inj, mem_modules]
  constructor
  · intro h_inj a h_a b h_b
    exact h_inj _ ⟨a, h_a, rfl⟩ _ ⟨b, h_b, rfl⟩
  · rintro h_inj _ ⟨a, h_a, rfl⟩ _ ⟨b, h_b, rfl⟩
    exact h_inj a h_a b h_b

theorem support_ne_deltaUnit_iff (compilation : Compilation) :
    (∀ a ∈ compilation.options.supportUnit?.toList.map (·.fileName),
      ∀ b ∈ (compilation.graph.nodes.map (·.generatedName)).map Naming.deltaUnitFileName, a ≠ b) ↔
      compilation.options.supportScheduled = true ∨
        ∀ node ∈ compilation.graph.nodes, node.generatedName ≠ "DeltaSupport" := by
  simp only [mem_supportNames, List.forall_mem_map]
  constructor
  · intro h_apart
    refine or_iff_not_imp_left.mpr fun h_emitted node h_node h_name => ?_
    exact h_apart _ ⟨Bool.eq_false_iff.mpr h_emitted, rfl⟩ node h_node (by rw [h_name])
  · rintro h_apart _ ⟨h_emitted, rfl⟩ node h_node h_eq
    rcases h_apart with h_scheduled | h_names
    · simp [h_scheduled] at h_emitted
    · exact h_names node h_node (Naming.deltaUnitFileName_inj.mp h_eq).symm

/-- No manifest has the name of another unit. -/
theorem ne_manifestName (compilation : Compilation) :
    ∀ a ∈ compilation.options.supportUnit?.toList.map (·.fileName) ++
        (compilation.graph.nodes.map (·.generatedName)).map Naming.deltaUnitFileName,
      ∀ b ∈ compilation.modules.map Naming.manifestFileName, a ≠ b := by
  simp only [List.mem_append, mem_supportNames, List.forall_mem_map]
  rintro a (⟨-, rfl⟩ | h_delta) modulePath -
  · exact Naming.deltaUnitFileName_ne_manifestFileName _ _
  · obtain ⟨generatedName, -, rfl⟩ := List.mem_map.mp h_delta
    exact Naming.deltaUnitFileName_ne_manifestFileName _ _

/-- Files have different names exactly if no delta unit falls on a support unit and no two modules
    with candidates share a key.  The latter cannot happen below names that may stand in keys. -/
theorem nodup_fileNames_iff (compilation : Compilation) :
    (compilation.generate.fileNames.Nodup ↔
      (compilation.options.supportScheduled = true ∨
        ∀ node ∈ compilation.graph.nodes, node.generatedName ≠ "DeltaSupport") ∧
      ∀ a ∈ compilation.candidates, ∀ b ∈ compilation.candidates,
        Naming.moduleKey a.modulePath = Naming.moduleKey b.modulePath →
          a.modulePath = b.modulePath) ∧
    ((∀ candidate ∈ compilation.candidates, Naming.IsSeparableModule candidate.modulePath) →
      ∀ a ∈ compilation.candidates, ∀ b ∈ compilation.candidates,
        Naming.moduleKey a.modulePath = Naming.moduleKey b.modulePath →
          a.modulePath = b.modulePath) := by
  refine ⟨?_, fun h_separable a h_a b h_b h_key =>
    Naming.moduleKey_inj (h_separable a h_a) (h_separable b h_b) h_key⟩
  rw [fileNames_generate, List.nodup_append, List.nodup_append, nodup_manifestNames,
    support_ne_deltaUnit_iff]
  constructor
  · rintro ⟨⟨-, -, h_support⟩, h_keys, -⟩
    exact ⟨h_support, h_keys⟩
  · rintro ⟨h_support, h_keys⟩
    exact ⟨⟨nodup_supportNames _, nodup_deltaUnitNames _, h_support⟩, h_keys, ne_manifestName _⟩

/-- A type in a module whose names may stand in a key. -/
def modelsCompilation : Compilation where
  sources := [{
    modulePath := "crate::models"
    path := "models.rs"
    text := "#[derive(TrackDelta)] pub struct User;" }]

theorem nodup_fileNames_modelsCompilation :
    (∀ candidate ∈ modelsCompilation.candidates,
      Naming.IsSeparableModule candidate.modulePath) ∧
    modelsCompilation.generate.fileNames.Nodup := by
  have h_nodes : ∀ node ∈ modelsCompilation.graph.nodes, node.generatedName ≠ "DeltaSupport" := by
    decide +kernel
  have h_modules : ∀ candidate ∈ modelsCompilation.candidates,
      candidate.modulePath = Text.joinSegments ["crate", "models"] := by
    decide +kernel
  have h_separable : ∀ candidate ∈ modelsCompilation.candidates,
      Naming.IsSeparableModule candidate.modulePath := fun candidate h_candidate =>
    ⟨["models"], h_modules candidate h_candidate,
      List.forall_mem_singleton.mpr ⟨by decide, by decide, by decide, by decide +kernel⟩⟩
  obtain ⟨h_iff, h_keys⟩ := nodup_fileNames_iff modelsCompilation
  exact ⟨h_separable, h_iff.mpr ⟨.inr h_nodes, h_keys h_separable⟩⟩

/-- Two modules with one key; the delta unit of a type in one falls on the support unit. -/
def collidingCompilation : Compilation where
  sources := [
    { modulePath := "crate::a::b"
      path := "a/b.rs"
      text := "#[derive(TrackDelta)] pub struct X;" },
    { modulePath := "crate::a__b"
      path := "a__b.rs"
      text := "#[derive(TrackDelta)] #[delta(suffix = \"Support\")] pub struct Delta;" }]

theorem not_nodup_fileNames_collidingCompilation :
    collidingCompilation.generate.fileNames =
      ["DeltaSupport.g.rs", "XDelta.g.rs", "DeltaSupport.g.rs", "a__b.deltas.rs",
       "a__b.deltas.rs"] ∧
    ¬ collidingCompilation.generate.fileNames.Nodup := by
  have h_names : collidingCompilation.generate.fileNames =
      ["DeltaSupport.g.rs", "XDelta.g.rs", "DeltaSupport.g.rs", "a__b.deltas.rs",
       "a__b.deltas.rs"] := by
    decide +kernel
  exact ⟨h_names, by rw [h_names]; decide⟩

end Compilation
end FieldDelta
