import FieldDelta.Proofs.Generation.InputOrder
import FieldDelta.Proofs.Syntax.Equality
import Mathlib.Data.List.Perm.Basic
import Mathlib.Logic.Relation

/-! # Modules in files of their own

What stands between the braces of a module may as well stand in a file of its own.  Identities,
scopes and texts of candidates depend on the path of their module and on its items, and not on
where these are found; only the order of the candidates does.  `Compilation.moving_immaterial`
says what that comes to for a compilation.

* `Source.Splits` — a file from which one module is moved into another file;
* `Compilation.Moves` — a compilation in which that is done with one file.
-/

namespace FieldDelta

open Syntax

/-! ## Items with and without a module -/

theorem Candidate.ofItems_append (modulePath : String) (scope : Scope) (items others : List Item) :
    ofItems modulePath scope (items ++ others) =
      ofItems modulePath scope items ++ ofItems modulePath scope others := by
  induction items with
  | nil => rw [List.nil_append, ofItems, List.nil_append]
  | cons first rest ih => rw [List.cons_append, ofItems, ofItems, ih, List.append_assoc]

/-- A module brings nothing into the scope that it stands in. -/
theorem Scope.ofItems_submodule (modulePath : String) (attributes : List Attribute) (name : String)
    (contents : Option (List Item)) (before after : List Item) :
    ofItems modulePath (before ++ .submodule attributes name contents :: after) =
      ofItems modulePath (before ++ after) := by
  simp only [ofItems, List.foldl_append, List.foldl_cons, addItem]

/-- The candidates of the items of a module, with the scope that these make up. -/
def Candidate.ofModule (modulePath : String) (items : List Item) : List Candidate :=
  ofItems modulePath (.ofItems modulePath items) items

/-- The path of a module that is declared in another one. -/
def submodulePath (modulePath name : String) : String :=
  modulePath ++ "::" ++ Naming.withoutRaw name

theorem Candidate.ofModule_inline {attributes : List Attribute}
    (h_kept : attributes.any Attribute.isTestOnly = false) (modulePath name : String)
    (contents before after : List Item) :
    (ofModule modulePath (before ++ .submodule attributes name (some contents) :: after)).Perm
      (ofModule modulePath (before ++ after) ++
        ofModule (submodulePath modulePath name) contents) := by
  rw [ofModule, ofModule, Scope.ofItems_submodule]
  generalize Scope.ofItems modulePath (before ++ after) = scope
  have h_module : ofItem modulePath scope (.submodule attributes name (some contents)) =
      ofModule (submodulePath modulePath name) contents := by
    simp [ofItem, ofModule, submodulePath, h_kept]
  rw [ofItems_append, ofItems_append, ofItems, h_module, List.append_assoc]
  exact List.perm_append_comm.append_left _

theorem Candidate.ofModule_declared (attributes : List Attribute) (modulePath name : String)
    (before after : List Item) :
    ofModule modulePath (before ++ .submodule attributes name none :: after) =
      ofModule modulePath (before ++ after) := by
  rw [ofModule, ofModule, Scope.ofItems_submodule, ofItems_append, ofItems_append, ofItems, ofItem,
    List.nil_append]
  all_goals nofun

/-! ## Files -/

/-- The items of a file, if it can be read. -/
def Source.items? (source : Source) : Option (List Item) :=
  parseFile? source.text

theorem Source.collected_eq {source : Source} {items : List Item}
    (h_items : source.items? = some items) :
    source.collected = { candidates := Candidate.ofModule source.modulePath items } := by
  rw [Source.items?] at h_items
  simp only [Source.collected, collect, h_items, Candidate.ofModule]

/-- The file declares a module with its items, which is not for tests only.  It is kept with a mere
    declaration of the module in place of that, and the items are moved into a file for the
    module. -/
def Source.Splits (source kept moved : Source) : Prop :=
  ∃ before after attributes attributes' name contents,
    attributes.any Attribute.isTestOnly = false ∧
    source.items? = some (before ++ .submodule attributes name (some contents) :: after) ∧
    kept.items? = some (before ++ .submodule attributes' name none :: after) ∧
    moved.items? = some contents ∧
    kept.modulePath = source.modulePath ∧
    moved.modulePath = submodulePath source.modulePath name

theorem Source.Splits.candidates_perm {source kept moved : Source}
    (h_splits : source.Splits kept moved) :
    source.collected.candidates.Perm
      (kept.collected.candidates ++ moved.collected.candidates) := by
  obtain ⟨before, after, attributes, attributes', name, contents, h_attributes, h_source, h_kept,
    h_moved, h_module, h_submodule⟩ := h_splits
  rw [collected_eq h_source, collected_eq h_kept, collected_eq h_moved, h_module, h_submodule]
  rw [Candidate.ofModule_declared]
  exact Candidate.ofModule_inline h_attributes _ _ _ _ _

theorem Source.Splits.diagnostics_eq {source kept moved : Source}
    (h_splits : source.Splits kept moved) :
    source.collected.diagnostics = [] ∧ kept.collected.diagnostics = [] ∧
      moved.collected.diagnostics = [] := by
  obtain ⟨before, after, attributes, attributes', name, contents, -, h_source, h_kept, h_moved, -⟩ :=
    h_splits
  rw [collected_eq h_source, collected_eq h_kept, collected_eq h_moved]
  exact ⟨rfl, rfl, rfl⟩

/-! ## Compilations -/

namespace Compilation

variable {compilation other middle : Compilation}

/-- A module of one file is moved into a file of its own. -/
def Moves (compilation other : Compilation) : Prop :=
  compilation.options = other.options ∧
    ∃ source kept moved rest, source.Splits kept moved ∧
      compilation.sources.Perm (source :: rest) ∧ other.sources.Perm (kept :: moved :: rest)

/-- Two compilations differ in the order of what is collected at most. -/
structure Agrees (compilation other : Compilation) : Prop where
  options_eq : compilation.options = other.options
  candidates_perm : compilation.candidates.Perm other.candidates
  diagnostics_perm : (compilation.collected.flatMap (·.diagnostics)).Perm
    (other.collected.flatMap (·.diagnostics))

theorem Agrees.refl (compilation : Compilation) : compilation.Agrees compilation :=
  ⟨rfl, .refl _, .refl _⟩

theorem Agrees.trans (h_agrees : compilation.Agrees middle) (h_agrees' : middle.Agrees other) :
    compilation.Agrees other where
  options_eq := h_agrees.options_eq.trans h_agrees'.options_eq
  candidates_perm := h_agrees.candidates_perm.trans h_agrees'.candidates_perm
  diagnostics_perm := h_agrees.diagnostics_perm.trans h_agrees'.diagnostics_perm

theorem candidates_eq (compilation : Compilation) :
    compilation.candidates = compilation.sources.flatMap (·.collected.candidates) := by
  rw [candidates, collected, List.flatMap_map]

theorem diagnostics_collected_eq (compilation : Compilation) :
    compilation.collected.flatMap (·.diagnostics) =
      compilation.sources.flatMap (·.collected.diagnostics) := by
  rw [collected, List.flatMap_map]

/-- One step leaves everything as it is collected, but for its order. -/
theorem Moves.agrees (h_moves : compilation.Moves other) : compilation.Agrees other := by
  obtain ⟨h_options, source, kept, moved, rest, h_splits, h_before, h_after⟩ := h_moves
  obtain ⟨h_source, h_kept, h_moved⟩ := h_splits.diagnostics_eq
  refine ⟨h_options, ?_, ?_⟩
  · rw [candidates_eq, candidates_eq]
    refine (h_before.flatMap_right _).trans (.trans ?_ (h_after.flatMap_right _).symm)
    rw [List.flatMap_cons, List.flatMap_cons, List.flatMap_cons, ← List.append_assoc]
    exact h_splits.candidates_perm.append_right _
  · rw [diagnostics_collected_eq, diagnostics_collected_eq]
    refine (h_before.flatMap_right _).trans (.trans ?_ (h_after.flatMap_right _).symm)
    rw [List.flatMap_cons, List.flatMap_cons, List.flatMap_cons, h_source, h_kept, h_moved]
    exact .refl _

section Agreeing

variable (h_agrees : compilation.Agrees other)
include h_agrees

theorem Agrees.graph_eq : compilation.graph = other.graph := by
  rw [Compilation.graph_eq, Compilation.graph_eq, h_agrees.options_eq]
  exact Graph.assemble_of_perm ((h_agrees.candidates_perm.map describe).filterMap _) _

theorem Agrees.units_eq : compilation.generate.units = other.generate.units := by
  have h_modules : manifestModules compilation.candidates other.graph =
      manifestModules other.candidates other.graph := by
    refine Text.sorted_congr fun modulePath => ?_
    rw [List.mem_append, List.mem_append, (h_agrees.candidates_perm.map _).mem_iff]
  rw [units_generate, units_generate, manifests, manifests, h_agrees.graph_eq, h_agrees.options_eq,
    h_modules]

end Agreeing

/-- What is found in files and what is found in candidates may be reported one after the other. -/
theorem findings_perm (compilation : Compilation) :
    compilation.findings.Perm
      (compilation.collected.flatMap (·.diagnostics) ++
        compilation.candidates.flatMap fun candidate => (describe candidate).diagnostics) := by
  have h_findings : compilation.findings = compilation.collected.flatMap fun found =>
      found.diagnostics ++
        found.candidates.flatMap fun candidate => (describe candidate).diagnostics := by
    simp only [findings, stageDiagnostics, List.flatMap_map]
  rw [h_findings, candidates, List.flatMap_assoc]
  exact (List.flatMap_append_perm _ _ _).symm

theorem Agrees.diagnostics_generate_perm (h_agrees : compilation.Agrees other) :
    compilation.generate.diagnostics.Perm other.generate.diagnostics := by
  rw [diagnostics_generate, diagnostics_generate, h_agrees.graph_eq]
  refine .append_right _ ((findings_perm compilation).trans (.trans ?_ (findings_perm other).symm))
  exact h_agrees.diagnostics_perm.append (h_agrees.candidates_perm.flatMap_right _)

/-- Modules may be moved into files of their own, one after the other and those inside them as
    well.  The candidates stay, as do the graph, the units and what is reported; only the order
    changes in which files and candidates are reported on. -/
theorem moving_immaterial (h_moves : Relation.ReflTransGen Moves compilation other) :
    compilation.candidates.Perm other.candidates ∧
    compilation.graph = other.graph ∧
    compilation.generate.units = other.generate.units ∧
    compilation.generate.diagnostics.Perm other.generate.diagnostics := by
  have h_agrees : compilation.Agrees other := by
    induction h_moves with
    | refl => exact .refl _
    | tail _ h_step ih => exact ih.trans h_step.agrees
  exact ⟨h_agrees.candidates_perm, h_agrees.graph_eq, h_agrees.units_eq,
    h_agrees.diagnostics_generate_perm⟩

/-- A file with modules in it, of which the inner one has imports of its own. -/
def nestedSource : Source where
  modulePath := "crate"
  path := "lib.rs"
  text := "#[derive(TrackDelta)] struct A;
    mod a \x7b #[derive(TrackDelta)] struct B \x7b pub a: super::A \x7d
    mod r#type \x7b use super::B; #[derive(TrackDelta)] struct C \x7b pub b: B \x7d \x7d \x7d"

/-- The file with the outer module moved away. -/
def outerSource : Source :=
  { nestedSource with text := "#[derive(TrackDelta)] struct A; mod a;" }

/-- The file of the outer module. -/
def middleSource : Source where
  modulePath := "crate::a"
  path := "a.rs"
  text := "#[derive(TrackDelta)] struct B \x7b pub a: super::A \x7d
    mod r#type \x7b use super::B; #[derive(TrackDelta)] struct C \x7b pub b: B \x7d \x7d"

/-- The file of the outer module with the inner one moved away. -/
def declaringSource : Source :=
  { middleSource with
    text := "#[derive(TrackDelta)] struct B \x7b pub a: super::A \x7d mod r#type;" }

/-- The file of the inner module. -/
def innerSource : Source where
  modulePath := "crate::a::type"
  path := "a/type.rs"
  text := "use super::B; #[derive(TrackDelta)] struct C \x7b pub b: B \x7d"

/-- A marked struct as it is read. -/
def markedStruct (name : String) (fields : Fields) : Item :=
  let marker : Attribute := ⟨false, .ofNames ["derive"], .arguments .paren [.word "TrackDelta"]⟩
  .struct ⟨[marker], .inherited, name, [], []⟩ fields

def innerItems : List Item :=
  [.use false (.path "super" (.name "B")),
   markedStruct "C" (.named [⟨[], .pub, some "b", [.path (.ofNames ["B"])]⟩])]

def middleItems (contents : Option (List Item)) : List Item :=
  [markedStruct "B" (.named [⟨[], .pub, some "a", [.path (.ofNames ["super", "A"])]⟩]),
   .submodule [] "r#type" contents]

def outerItems (contents : Option (List Item)) : List Item :=
  [markedStruct "A" .unit, .submodule [] "a" contents]

theorem nestedSource_splits : nestedSource.Splits outerSource middleSource := by
  have h_nested : nestedSource.items? = some (outerItems (middleItems innerItems)) := by
    decide +kernel
  have h_outer : outerSource.items? = some (outerItems none) := by
    decide +kernel
  have h_middle : middleSource.items? = some (middleItems innerItems) := by
    decide +kernel
  exact ⟨[_], [], [], [], "a", _, rfl, h_nested, h_outer, h_middle, rfl, rfl⟩

theorem middleSource_splits : middleSource.Splits declaringSource innerSource := by
  have h_middle : middleSource.items? = some (middleItems innerItems) := by
    decide +kernel
  have h_declaring : declaringSource.items? = some (middleItems none) := by
    decide +kernel
  have h_inner : innerSource.items? = some innerItems := by
    decide +kernel
  exact ⟨[_], [], [], [], "r#type", _, rfl, h_middle, h_declaring, h_inner, rfl, by decide⟩

theorem moving_immaterial_nestedSource :
    Relation.ReflTransGen Moves ⟨[nestedSource], {}⟩
      ⟨[outerSource, declaringSource, innerSource], {}⟩ ∧
    (Compilation.generate ⟨[nestedSource], {}⟩).units =
      (Compilation.generate ⟨[outerSource, declaringSource, innerSource], {}⟩).units := by
  have h_first : Moves ⟨[nestedSource], {}⟩ ⟨[outerSource, middleSource], {}⟩ :=
    ⟨rfl, nestedSource, outerSource, middleSource, [], nestedSource_splits, .refl _, .refl _⟩
  have h_second : Moves ⟨[outerSource, middleSource], {}⟩
      ⟨[outerSource, declaringSource, innerSource], {}⟩ :=
    ⟨rfl, middleSource, declaringSource, innerSource, [outerSource], middleSource_splits,
      .swap _ _ _, (List.Perm.swap _ _ _).trans (.cons _ (.swap _ _ _))⟩
  have h_moves : Relation.ReflTransGen Moves ⟨[nestedSource], {}⟩
      ⟨[outerSource, declaringSource, innerSource], {}⟩ :=
    .tail (.single h_first) h_second
  exact ⟨h_moves, (moving_immaterial h_moves).2.2.1⟩

end Compilation
end FieldDelta
