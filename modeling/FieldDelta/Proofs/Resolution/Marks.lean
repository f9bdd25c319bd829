import FieldDelta.Proofs.Resolution.Renaming
import Mathlib.Data.List.Forall2

/-! # Scopes up to the marks of raw identifiers

Two lists of `use` items may differ in the marks `r#` of their identifiers only.  The names that
they bind are then the same, since aliases lose their marks, but the paths that these names are
bound to are not: they are kept as written.

* `AlikePaths` — paths that are the same up to marks;
* `Scope.Alike` — scopes that bind the same names to such paths;
* `Scope.ofItems_congr` — marks on aliases make no difference at all;
* `Scope.ofItems_alike` — other marks make no further one.

Marks must not change what kind of segment an identifier is (`Naming.UnmarkedIn`): the four path
keywords have no raw form, and a marked `std` is no external crate.
-/

namespace FieldDelta

open Syntax

namespace Naming

/-! ## Identifiers -/

/-- What no raw identifier spells without its mark. -/
def neverRaw : List String :=
  "" :: "_" :: pathKeywords

/-- An identifier that is one of `names` up to its mark has no mark. -/
def UnmarkedIn (names : List String) (identifier : String) : Prop :=
  withoutRaw identifier ∈ names → withoutRaw identifier = identifier

instance (names : List String) (identifier : String) : Decidable (UnmarkedIn names identifier) :=
  inferInstanceAs (Decidable (_ → _))

theorem withoutRaw_of_mem_neverRaw : ∀ name ∈ neverRaw, withoutRaw name = name := by decide

theorem withoutRaw_of_mem_externalRoots : ∀ root ∈ externalRoots, withoutRaw root = root := by
  decide

variable {names : List String} {identifier other name : String}

theorem UnmarkedIn.eq_iff (h_identifier : UnmarkedIn names identifier) (h_mem : name ∈ names)
    (h_name : withoutRaw name = name) : identifier = name ↔ withoutRaw identifier = name := by
  constructor
  · rintro rfl
    exact h_name
  · rintro rfl
    exact (h_identifier h_mem).symm

/-- Identifiers that are the same up to marks are the same name among `names`, or both none. -/
theorem UnmarkedIn.congr (h_identifier : UnmarkedIn names identifier)
    (h_other : UnmarkedIn names other) (h_alike : withoutRaw identifier = withoutRaw other)
    (h_mem : name ∈ names) (h_name : withoutRaw name = name) :
    identifier = name ↔ other = name := by
  rw [h_identifier.eq_iff h_mem h_name, h_other.eq_iff h_mem h_name, h_alike]

/-- Marks are only on names that have a raw form. -/
def AreIdentifiers (names : List String) : Prop :=
  ∀ name ∈ names, UnmarkedIn neverRaw name

instance (names : List String) : Decidable (AreIdentifiers names) :=
  inferInstanceAs (Decidable (∀ name ∈ names, UnmarkedIn neverRaw name))

theorem AreIdentifiers.congr {names others : List String} (h_names : AreIdentifiers names)
    (h_others : AreIdentifiers others) (h_identifier : identifier ∈ names)
    (h_other : other ∈ others) (h_alike : withoutRaw identifier = withoutRaw other)
    (h_name : name ∈ neverRaw) : identifier = name ↔ other = name :=
  (h_names _ h_identifier).congr (h_others _ h_other) h_alike h_name
    (withoutRaw_of_mem_neverRaw _ h_name)

/-- Marks do not hide the `super` segments at the beginning of a path. -/
theorem length_takeWhile_super {names : List String} (h_names : AreIdentifiers names) :
    ((names.map withoutRaw).takeWhile (· == "super")).length =
      (names.takeWhile (· == "super")).length := by
  induction names with
  | nil => rfl
  | cons name rest ih =>
    obtain ⟨h_name, h_rest⟩ := List.forall_mem_cons.mp h_names
    have h_super : (withoutRaw name == "super") = (name == "super") := by
      rw [Bool.eq_iff_iff, beq_iff_eq, beq_iff_eq]
      exact (h_name.eq_iff (by decide) (by decide)).symm
    rw [List.map_cons, List.takeWhile_cons, List.takeWhile_cons, h_super]
    split
    · rw [List.length_cons, List.length_cons, ih h_rest]
    · rfl

end Naming

open Naming

/-! ## Paths -/

/-- Segments that are the same up to marks behind the first one. -/
def AlikeSegments (names others : List String) : Prop :=
  names.head? = others.head? ∧ names.map withoutRaw = others.map withoutRaw

/-- Paths that are the same up to marks behind the first segment. -/
def AlikePaths (path other : String) : Prop :=
  ∃ names others, names ≠ [] ∧ AlikeSegments names others ∧
    path = Text.joinSegments names ∧ other = Text.joinSegments others

theorem AlikeSegments.ne_nil {names others : List String} (h_names : AlikeSegments names others)
    (h_nonempty : names ≠ []) : others ≠ [] := by
  rintro rfl
  exact h_nonempty (List.map_eq_nil_iff.mp h_names.2)

theorem AlikeSegments.append {names others rest rest' : List String} (h_nonempty : names ≠ [])
    (h_names : AlikeSegments names others) (h_rest : rest.map withoutRaw = rest'.map withoutRaw) :
    AlikeSegments (names ++ rest) (others ++ rest') := by
  have h_others := h_names.ne_nil h_nonempty
  obtain ⟨h_head, h_map⟩ := h_names
  constructor
  · rw [List.head?_append_of_ne_nil _ h_nonempty, List.head?_append_of_ne_nil _ h_others, h_head]
  · rw [List.map_append, List.map_append, h_map, h_rest]

theorem AlikeSegments.alikePaths {names others : List String} (h_nonempty : names ≠ [])
    (h_names : AlikeSegments names others) :
    AlikePaths (Text.joinSegments names) (Text.joinSegments others) :=
  ⟨names, others, h_nonempty, h_names, rfl, rfl⟩

theorem AlikePaths.refl (path : String) : AlikePaths path path :=
  ⟨Text.segments path, _, Text.segments_ne_nil path, ⟨rfl, rfl⟩, by simp, by simp⟩

/-- What stands behind a path tells nothing about it. -/
theorem joinSegments_append_inj {names others : List String} (h_names : names ≠ [])
    (h_others : others ≠ []) (rest : List String) :
    Text.joinSegments (names ++ rest) = Text.joinSegments (others ++ rest) ↔
      Text.joinSegments names = Text.joinSegments others := by
  rcases eq_or_ne rest [] with rfl | h_rest
  · simp
  · rw [Text.joinSegments_append h_names h_rest, Text.joinSegments_append h_others h_rest,
      String.append_left_inj, String.append_left_inj]

/-- Segments behind a path may be put behind its text. -/
theorem joinSegments_segments_append {names : List String} (h_names : names ≠ [])
    (rest : List String) :
    Text.joinSegments (Text.segments (Text.joinSegments names) ++ rest) =
      Text.joinSegments (names ++ rest) :=
  (joinSegments_append_inj (Text.segments_ne_nil _) h_names rest).mpr
    (Text.joinSegments_segments _)

theorem AlikePaths.append {path other : String} (h_path : AlikePaths path other)
    (rest : List String) :
    AlikePaths (Text.joinSegments (Text.segments path ++ rest))
      (Text.joinSegments (Text.segments other ++ rest)) := by
  obtain ⟨names, others, h_nonempty, h_names, rfl, rfl⟩ := h_path
  rw [joinSegments_segments_append h_nonempty,
    joinSegments_segments_append (h_names.ne_nil h_nonempty)]
  exact (h_names.append h_nonempty rfl).alikePaths (List.append_ne_nil_of_left_ne_nil h_nonempty _)

/-! ## Targets -/

theorem absolutize_alike (modulePath : String) {segments others : List String}
    (h_segments : segments ≠ []) (h_names : AreIdentifiers segments)
    (h_others : AreIdentifiers others)
    (h_alike : segments.map withoutRaw = others.map withoutRaw) :
    Option.Rel (fun path other => path ≠ [] ∧ AlikeSegments path other)
      (absolutize modulePath segments) (absolutize modulePath others) := by
  have h_module := Text.segments_ne_nil modulePath
  have h_climbs : (segments.takeWhile (· == "super")).length =
      (others.takeWhile (· == "super")).length := by
    rw [← length_takeWhile_super h_names, ← length_takeWhile_super h_others, h_alike]
  have h_dropped (climbs : Nat) :
      (segments.drop climbs).map withoutRaw = (others.drop climbs).map withoutRaw := by
    rw [List.map_drop, List.map_drop, h_alike]
  have h_below {base : List String} (h_base : base ≠ []) {rest rest' : List String}
      (h_rest : rest.map withoutRaw = rest'.map withoutRaw) :
      base ++ rest ≠ [] ∧ AlikeSegments (base ++ rest) (base ++ rest') :=
    ⟨List.append_ne_nil_of_left_ne_nil h_base _, AlikeSegments.append h_base ⟨rfl, rfl⟩ h_rest⟩
  obtain ⟨first, rest, rfl⟩ := List.exists_cons_of_ne_nil h_segments
  obtain ⟨first', rest', rfl, h_first, h_rest⟩ := List.map_eq_cons_iff.mp h_alike.symm
  have h_is (keyword : String) (h_keyword : keyword ∈ neverRaw) :
      first = keyword ↔ first' = keyword :=
    h_names.congr h_others List.mem_cons_self List.mem_cons_self h_first.symm h_keyword
  have h_crate := h_is "crate" (by decide)
  unfold absolutize
  simp only [h_crate, h_is "self" (by decide), h_is "super" (by decide), h_climbs]
  split
  next h_eq => exact .some ⟨List.cons_ne_nil _ _, by simp [h_crate.mpr h_eq, h_eq], h_alike⟩
  split
  · exact .some (h_below h_module h_rest.symm)
  split
  · split
    · exact .none
    next h_short =>
      refine .some (h_below (List.ne_nil_of_length_pos ?_) (h_dropped _))
      rw [List.length_take]
      omega
  · exact .some (h_below h_module h_alike)

/-- Where the paths of two `use` items lead if they are the same up to marks. -/
inductive AlikeTargets (segments others : List String) : Target → Target → Prop where
  | within {path other : String} (h_path : AlikePaths path other) :
    AlikeTargets segments others (.within path) (.within other)
  | external (h_path : AlikePaths (Text.joinSegments segments) (Text.joinSegments others)) :
    AlikeTargets segments others .external .external
  | above : AlikeTargets segments others .above .above

/-- The first segment is no external crate, or is one without a mark. -/
def RootUnmarked (segments : List String) : Prop :=
  ∀ root ∈ segments.head?, UnmarkedIn externalRoots root

instance (segments : List String) : Decidable (RootUnmarked segments) :=
  inferInstanceAs (Decidable (∀ root ∈ segments.head?, UnmarkedIn externalRoots root))

theorem RootUnmarked.of_append {segments rest : List String}
    (h_root : RootUnmarked (segments ++ rest)) : RootUnmarked segments := by
  cases segments with
  | nil =>
    intro root h_mem
    cases h_mem
  | cons first segments => exact h_root

theorem ofUse_alike (modulePath : String) {segments others : List String}
    (h_names : AreIdentifiers segments) (h_others : AreIdentifiers others)
    (h_root : RootUnmarked segments) (h_root' : RootUnmarked others)
    (h_alike : segments.map withoutRaw = others.map withoutRaw) :
    AlikeTargets segments others (Target.ofUse modulePath segments)
      (Target.ofUse modulePath others) := by
  cases segments with
  | nil =>
    obtain rfl := List.map_eq_nil_iff.mp h_alike.symm
    exact .external (.refl _)
  | cons first rest =>
    obtain ⟨first', rest', rfl, h_first, -⟩ := List.map_eq_cons_iff.mp h_alike.symm
    have h_leading : first = "" ↔ first' = "" :=
      h_names.congr h_others List.mem_cons_self List.mem_cons_self h_first.symm (by decide)
    have h_crate (root : String) (h_mem : root ∈ externalRoots) : first = root ↔ first' = root :=
      (h_root _ rfl).congr (h_root' _ rfl) h_first.symm h_mem
        (withoutRaw_of_mem_externalRoots _ h_mem)
    have h_foreign : (first = "" ∨ externalRoots.contains first) ↔
        (first' = "" ∨ externalRoots.contains first') := by
      rw [h_leading, List.contains_iff_mem, List.contains_iff_mem]
      refine or_congr_right ⟨fun h_mem => ?_, fun h_mem => ?_⟩
      · rwa [(h_crate _ h_mem).mp rfl]
      · rwa [(h_crate _ h_mem).mpr rfl]
    have h_absolute :=
      absolutize_alike modulePath (List.cons_ne_nil _ _) h_names h_others h_alike
    unfold Target.ofUse
    simp only [h_foreign]
    split
    next h_external =>
      have h_eq : first = first' := by
        rcases h_external with h_empty | h_mem
        · rw [h_empty, h_leading.mpr h_empty]
        · exact (h_crate _ (List.contains_iff_mem.mp h_mem)).mpr rfl
      refine .external (AlikeSegments.alikePaths (List.cons_ne_nil _ _) ⟨?_, h_alike⟩)
      rw [List.head?_cons, List.head?_cons, h_eq]
    next =>
      generalize absolutize modulePath (first :: rest) = path at h_absolute ⊢
      generalize absolutize modulePath (first' :: rest') = other at h_absolute ⊢
      cases h_absolute with
      | none => exact .above
      | some h_path => exact .within (h_path.2.alikePaths h_path.1)

/-! ## Bindings -/

/-- Bindings of one name to paths that are the same up to marks. -/
def AlikeBindings (bound other : String × String) : Prop :=
  bound.1 = other.1 ∧ AlikePaths bound.2 other.2

/-- Scopes that are the same up to marks in the paths that they bring in. -/
structure Scope.Alike (scope other : Scope) : Prop where
  bindings : List.Forall₂ AlikeBindings scope.bindings other.bindings
  globs : List.Forall₂ AlikePaths scope.globs other.globs

theorem insertBinding_alike {bindings others : List (String × String)} (name : String)
    {path other : String} (h_bindings : List.Forall₂ AlikeBindings bindings others)
    (h_path : AlikePaths path other) :
    List.Forall₂ AlikeBindings (insertBinding name path bindings)
      (insertBinding name other others) := by
  induction h_bindings with
  | nil => exact .cons ⟨rfl, h_path⟩ .nil
  | @cons binding binding' rest rest' h_binding h_rest ih =>
    obtain ⟨bound, place⟩ := binding
    obtain ⟨bound', place'⟩ := binding'
    obtain ⟨rfl, h_place⟩ : bound = bound' ∧ AlikePaths place place' := h_binding
    unfold insertBinding
    split
    · exact .cons ⟨rfl, h_path⟩ h_rest
    split
    · exact .cons ⟨rfl, h_path⟩ (.cons ⟨rfl, h_place⟩ h_rest)
    · exact .cons ⟨rfl, h_place⟩ ih

namespace Scope

variable {modulePath : String} {scope other : Scope}

theorem binding?_alike (h_scope : scope.Alike other) (name : String) :
    Option.Rel AlikePaths (scope.binding? name) (other.binding? name) := by
  obtain ⟨bindings, globs⟩ := scope
  obtain ⟨bindings', globs'⟩ := other
  obtain ⟨h_bindings, -⟩ := h_scope
  unfold binding?
  simp only at h_bindings ⊢
  induction h_bindings with
  | nil => exact .none
  | @cons binding binding' rest rest' h_binding h_rest ih =>
    obtain ⟨h_name, h_path⟩ := h_binding
    rw [List.find?_cons, List.find?_cons, h_name]
    split
    · exact .some h_path
    · exact ih

theorem bind_alike {newName newName' : String} {segments others : List String}
    (h_scope : scope.Alike other) (h_name : withoutRaw newName = withoutRaw newName')
    (h_targets : AlikeTargets segments others (Target.ofUse modulePath segments)
      (Target.ofUse modulePath others)) :
    (scope.bind modulePath newName segments).Alike (other.bind modulePath newName' others) := by
  unfold bind
  rw [h_name]
  generalize Target.ofUse modulePath segments = target at h_targets ⊢
  generalize Target.ofUse modulePath others = target' at h_targets ⊢
  cases h_targets with
  | within h_path => exact ⟨insertBinding_alike _ h_scope.bindings h_path, h_scope.globs⟩
  | external h_path => exact ⟨insertBinding_alike _ h_scope.bindings h_path, h_scope.globs⟩
  | above => exact h_scope

theorem addGlob_alike {segments others : List String} (h_scope : scope.Alike other)
    (h_targets : AlikeTargets segments others (Target.ofUse modulePath segments)
      (Target.ofUse modulePath others)) :
    (scope.addGlob modulePath segments).Alike (other.addGlob modulePath others) := by
  unfold addGlob
  generalize Target.ofUse modulePath segments = target at h_targets ⊢
  generalize Target.ofUse modulePath others = target' at h_targets ⊢
  cases h_targets with
  | within h_path => exact ⟨h_scope.bindings, List.rel_append h_scope.globs (.cons h_path .nil)⟩
  | external => exact h_scope
  | above => exact h_scope

end Scope

/-! ## Imports -/

namespace Syntax

/-- The identifiers that a leaf is written with. -/
def UseLeaf.identifiers : UseLeaf → List String
  | .name original => [original]
  | .rename original newName => [original, newName]
  | .glob => []

/-- The identifiers that an import is written with. -/
def Import.identifiers (imported : Import) : List String :=
  imported.path ++ imported.leaf.identifiers

/-- The imports of an item, each with its whole path.  A leading `::` is an empty segment. -/
def Item.rooted : Item → List Import
  | .use leading tree =>
    tree.imports.map fun imported => { imported with path := Scope.stem leading ++ imported.path }
  | _ => []

theorem Item.rooted_mapImports {rename renameNew : String → String} (h_empty : rename "" = "")
    (item : Item) : (item.mapImports rename renameNew).rooted =
      item.rooted.map (Import.mapNames rename renameNew) := by
  cases item with
  | use leading tree =>
    simp only [Item.mapImports, Item.rooted, imports_mapNames, List.map_map]
    refine List.map_congr_left fun imported _ => ?_
    cases leading <;> simp [Import.mapNames, Scope.stem, h_empty]
  | _ => rfl

end Syntax

namespace Scope

variable {modulePath : String} {scope other : Scope}

theorem addItem_eq_foldl (scope : Scope) (item : Item) :
    addItem modulePath scope item = item.rooted.foldl (addImport modulePath []) scope := by
  cases item with
  | use leading tree =>
    rw [addItem_use, Item.rooted, List.foldl_map]
    rfl
  | _ => rfl

/-- A scope is made of one import after the other. -/
theorem ofItems_eq_foldl (items : List Item) :
    ofItems modulePath items = (items.flatMap Item.rooted).foldl (addImport modulePath []) {} := by
  rw [List.foldl_flatMap, ofItems]
  congr 1
  funext scope item
  exact addItem_eq_foldl scope item

/-- Items that are the same up to renaming import one after the other what is the same up to
    renaming. -/
theorem forall₂_rooted {rename renameNew : String → String} {IsLegal : Import → Prop}
    (h_empty : rename "" = "") {items others : List Item}
    (h_items : items.map (Item.mapImports rename renameNew) =
      others.map (Item.mapImports rename renameNew))
    (h_legal : ∀ imported ∈ items.flatMap Item.rooted, IsLegal imported)
    (h_legal' : ∀ imported ∈ others.flatMap Item.rooted, IsLegal imported) :
    List.Forall₂ (fun imported imported' => IsLegal imported ∧ IsLegal imported' ∧
        imported.mapNames rename renameNew = imported'.mapNames rename renameNew)
      (items.flatMap Item.rooted) (others.flatMap Item.rooted) := by
  have h_renamed (items : List Item) :
      (items.flatMap Item.rooted).map (Import.mapNames rename renameNew) =
        (items.map (Item.mapImports rename renameNew)).flatMap Item.rooted := by
    rw [List.map_flatMap, List.flatMap_map]
    exact List.flatMap_congr fun item _ => (item.rooted_mapImports h_empty).symm
  have h_imports := h_renamed items
  rw [h_items, ← h_renamed others] at h_imports
  generalize items.flatMap Item.rooted = imports at h_legal h_imports
  generalize others.flatMap Item.rooted = imports' at h_legal' h_imports
  refine (List.forall₂_and_left _ _).mpr ⟨h_legal, List.Forall₂.flip ?_⟩
  refine (List.forall₂_and_left _ _).mpr ⟨h_legal', List.Forall₂.flip ?_⟩
  rwa [← List.forall₂_eq_eq_eq, List.forall₂_map_left_iff, List.forall₂_map_right_iff] at h_imports

/-! ## Marks of imports -/

/-- A mark on a new name is of no importance. -/
theorem addImport_congr (scope : Scope) {imported imported' : Import}
    (h_legal : AreIdentifiers imported.identifiers)
    (h_legal' : AreIdentifiers imported'.identifiers)
    (h_alike : imported.mapNames id withoutRaw = imported'.mapNames id withoutRaw) :
    addImport modulePath [] scope imported = addImport modulePath [] scope imported' := by
  obtain ⟨path, leaf⟩ := imported
  obtain ⟨path', leaf'⟩ := imported'
  obtain ⟨h_path, h_leaf⟩ := Import.mk.inj h_alike
  obtain rfl : path = path' := by simpa using h_path
  cases leaf <;> cases leaf' <;>
    simp only [UseLeaf.mapNames, reduceCtorEq, UseLeaf.name.injEq, UseLeaf.rename.injEq] at h_leaf
  case name.name original original' =>
    obtain rfl : original = original' := h_leaf
    rfl
  case rename.rename original newName original' newName' =>
    obtain ⟨h_original, h_new⟩ := h_leaf
    obtain rfl : original = original' := h_original
    have h_hidden : newName = "_" ↔ newName' = "_" :=
      h_legal.congr h_legal' (by simp [Import.identifiers, UseLeaf.identifiers])
        (by simp [Import.identifiers, UseLeaf.identifiers]) h_new (by decide)
    simp only [addImport, UseLeaf.tree, addTree, h_hidden, bind, h_new]
  case glob.glob => rfl

/-- Other marks are kept in the path that is bound or brought in. -/
theorem addImport_alike (h_scope : scope.Alike other) {imported imported' : Import}
    (h_legal : AreIdentifiers imported.identifiers) (h_root : RootUnmarked imported.identifiers)
    (h_legal' : AreIdentifiers imported'.identifiers) (h_root' : RootUnmarked imported'.identifiers)
    (h_alike : imported.mapNames withoutRaw withoutRaw =
      imported'.mapNames withoutRaw withoutRaw) :
    (addImport modulePath [] scope imported).Alike (addImport modulePath [] other imported') := by
  obtain ⟨path, leaf⟩ := imported
  obtain ⟨path', leaf'⟩ := imported'
  obtain ⟨h_path, h_leaf⟩ := Import.mk.inj h_alike
  -- Every path that is looked at begins the identifiers of the import.
  have h_targets {segments others rest rest' : List String}
      (h_segments : path ++ leaf.identifiers = segments ++ rest)
      (h_others : path' ++ leaf'.identifiers = others ++ rest')
      (h_alike : segments.map withoutRaw = others.map withoutRaw) :
      AlikeTargets segments others (Target.ofUse modulePath segments)
        (Target.ofUse modulePath others) := by
    rw [Import.identifiers, h_segments] at h_legal h_root
    rw [Import.identifiers, h_others] at h_legal' h_root'
    exact ofUse_alike modulePath (fun name h_name => h_legal name (List.mem_append_left _ h_name))
      (fun name h_name => h_legal' name (List.mem_append_left _ h_name)) h_root.of_append
      h_root'.of_append h_alike
  cases leaf <;> cases leaf' <;>
    simp only [UseLeaf.mapNames, reduceCtorEq, UseLeaf.name.injEq, UseLeaf.rename.injEq] at h_leaf
  case name.name original original' =>
    have h_self : original = "self" ↔ original' = "self" :=
      h_legal.congr h_legal' (by simp [Import.identifiers, UseLeaf.identifiers])
        (by simp [Import.identifiers, UseLeaf.identifiers]) h_leaf (by decide)
    simp only [addImport, UseLeaf.tree, addTree, List.nil_append, h_self]
    split
    · have h_last : path.getLast?.map withoutRaw = path'.getLast?.map withoutRaw := by
        rw [← List.getLast?_map, ← List.getLast?_map, h_path]
      generalize path.getLast? = last? at h_last ⊢
      generalize path'.getLast? = last?' at h_last ⊢
      cases last? <;> cases last?' <;>
        simp only [Option.map_none, Option.map_some, reduceCtorEq, Option.some.injEq] at h_last
      case none.none => exact h_scope
      case some.some last last' => exact bind_alike h_scope h_last (h_targets rfl rfl h_path)
    · refine bind_alike h_scope h_leaf (h_targets (List.append_nil _).symm
        (List.append_nil _).symm ?_)
      simp [h_path, h_leaf]
  case rename.rename original newName original' newName' =>
    obtain ⟨h_original, h_new⟩ := h_leaf
    have h_hidden : newName = "_" ↔ newName' = "_" :=
      h_legal.congr h_legal' (by simp [Import.identifiers, UseLeaf.identifiers])
        (by simp [Import.identifiers, UseLeaf.identifiers]) h_new (by decide)
    simp only [addImport, UseLeaf.tree, addTree, List.nil_append, h_hidden]
    split
    · exact h_scope
    · refine bind_alike h_scope h_new (h_targets (List.append_assoc path [original] [newName]).symm
        (List.append_assoc path' [original'] [newName']).symm ?_)
      simp [h_path, h_original]
  case glob.glob =>
    simp only [addImport, UseLeaf.tree, addTree, List.nil_append]
    exact addGlob_alike h_scope (h_targets rfl rfl h_path)

/-! ## Marks of items -/

variable {items others : List Item}

/-- Scopes are the same if only marks on new names differ. -/
theorem ofItems_congr
    (h_items : items.map (Item.mapImports id withoutRaw) =
      others.map (Item.mapImports id withoutRaw))
    (h_legal : ∀ imported ∈ items.flatMap Item.rooted, AreIdentifiers imported.identifiers)
    (h_legal' : ∀ imported ∈ others.flatMap Item.rooted, AreIdentifiers imported.identifiers) :
    ofItems modulePath items = ofItems modulePath others := by
  have h_imports := forall₂_rooted rfl h_items h_legal h_legal'
  rw [ofItems_eq_foldl, ofItems_eq_foldl]
  refine List.rel_foldl (P := Eq) ?_ rfl h_imports
  rintro scope _ rfl imported imported' ⟨h_imported, h_imported', h_alike⟩
  exact addImport_congr scope h_imported h_imported' h_alike

/-- Scopes are the same up to marks if all marks may differ. -/
theorem ofItems_alike
    (h_items : items.map (Item.mapImports withoutRaw withoutRaw) =
      others.map (Item.mapImports withoutRaw withoutRaw))
    (h_legal : ∀ imported ∈ items.flatMap Item.rooted,
      AreIdentifiers imported.identifiers ∧ RootUnmarked imported.identifiers)
    (h_legal' : ∀ imported ∈ others.flatMap Item.rooted,
      AreIdentifiers imported.identifiers ∧ RootUnmarked imported.identifiers) :
    (ofItems modulePath items).Alike (ofItems modulePath others) := by
  have h_imports := forall₂_rooted (by decide) h_items h_legal h_legal'
  rw [ofItems_eq_foldl, ofItems_eq_foldl]
  refine List.rel_foldl (P := Alike) ?_ ⟨.nil, .nil⟩ h_imports
  rintro scope other h_scope imported imported' ⟨h_imported, h_imported', h_alike⟩
  exact addImport_alike h_scope h_imported.1 h_imported.2 h_imported'.1 h_imported'.2 h_alike

end Scope

end FieldDelta
