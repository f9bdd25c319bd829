import FieldDelta.Scope
import Mathlib.Data.List.Basic

/-! # Groups of imports

A `use` tree imports one thing at each of its leaves, behind the segments that lead there.  Groups
only share segments: `Scope.addTree_eq_foldl` says that a tree brings in what its leaves bring in,
one after the other.  So an item may be flattened into one simple item for each leaf.

A leaf `self` stands for the path in front of it.  `Scope.ofItems_flattened` shows that flattening
may read it so, unless it is renamed: `use a::{self as b}` does not bind `b` to `a`, as `use a as b`
does, but to a path one segment longer.
-/

namespace FieldDelta

namespace Syntax

/-! ## Imports -/

/-- What the segments of a `use` tree lead to. -/
inductive UseLeaf where
  | name (name : String)
  | rename (name newName : String)
  | glob
deriving DecidableEq, Repr

def UseLeaf.tree : UseLeaf → UseTree
  | .name original => .name original
  | .rename original newName => .rename original newName
  | .glob => .glob

/-- Whether the leaf gives `self` a name. -/
def UseLeaf.renamesSelf : UseLeaf → Bool
  | .rename original newName => original == "self" && newName != "_"
  | _ => false

/-- A leaf of a `use` tree, with the segments that lead to it. -/
structure Import where
  path : List String
  leaf : UseLeaf
deriving DecidableEq, Repr

def Import.behind (segment : String) (imported : Import) : Import :=
  { imported with path := segment :: imported.path }

mutual

/-- What a tree imports, in order. -/
def UseTree.imports : UseTree → List Import
  | .path segment tree => tree.imports.map (Import.behind segment)
  | .name original => [⟨[], .name original⟩]
  | .rename original newName => [⟨[], .rename original newName⟩]
  | .glob => [⟨[], .glob⟩]
  | .group trees => UseTree.importsOfList trees

def UseTree.importsOfList : List UseTree → List Import
  | [] => []
  | tree :: rest => tree.imports ++ UseTree.importsOfList rest

end

def Item.imports : Item → List Import
  | .use _ tree => tree.imports
  | _ => []

/-! ## Flattening -/

/-- The simple tree that imports nothing else. -/
def Import.tree (imported : Import) : UseTree :=
  imported.path.foldr .path imported.leaf.tree

/-- The import with `self` replaced by what it stands for: `a::{self}` by `a`, and
    `a::{self as b}` by `a as b`. -/
def Import.withoutSelf (imported : Import) : Import :=
  match imported.path.getLast?, imported.leaf with
  | some last, .name original =>
    if original = "self" then ⟨imported.path.dropLast, .name last⟩ else imported
  | some last, .rename original newName =>
    if original = "self" then ⟨imported.path.dropLast, .rename last newName⟩ else imported
  | _, _ => imported

/-- The simple items that a `use` item is short for. -/
def Item.flattened : Item → List Item
  | .use leading tree => tree.imports.map fun imported => .use leading imported.withoutSelf.tree
  | item => [item]

/-- `self` does not stand behind another `self`. -/
def Import.SelfFollowsName (imported : Import) : Prop :=
  imported.leaf = .name "self" → imported.path.getLast? ≠ some "self"

instance (imported : Import) : Decidable imported.SelfFollowsName :=
  inferInstanceAs (Decidable (_ → _))

end Syntax

open Syntax

namespace Scope

variable {modulePath : String}

/-! ## Leaf by leaf -/

/-- The scope with what is imported behind the segments `stem`. -/
def addImport (modulePath : String) (stem : List String) (scope : Scope) (imported : Import) :
    Scope :=
  addTree modulePath (stem ++ imported.path) scope imported.leaf.tree

theorem addImport_behind (stem : List String) (scope : Scope) (segment : String)
    (imported : Import) :
    addImport modulePath stem scope (imported.behind segment) =
      addImport modulePath (stem ++ [segment]) scope imported := by
  rw [addImport, addImport, Import.behind, List.append_assoc, List.singleton_append]

mutual

/-- A tree brings in what its leaves bring in, in order. -/
theorem addTree_eq_foldl (stem : List String) (scope : Scope) (tree : UseTree) :
    addTree modulePath stem scope tree =
      tree.imports.foldl (addImport modulePath stem) scope := by
  cases tree with
  | path name tree =>
    rw [addTree, addTree_eq_foldl (stem ++ [name]) scope tree, UseTree.imports, List.foldl_map]
    simp only [addImport_behind]
  | name name => simp [UseTree.imports, addImport, UseLeaf.tree]
  | rename name newName => simp [UseTree.imports, addImport, UseLeaf.tree]
  | glob => simp [UseTree.imports, addImport, UseLeaf.tree]
  | group trees => rw [addTree, addTrees_eq_foldl stem scope trees, UseTree.imports]

theorem addTrees_eq_foldl (stem : List String) (scope : Scope) (trees : List UseTree) :
    addTrees modulePath stem scope trees =
      (UseTree.importsOfList trees).foldl (addImport modulePath stem) scope := by
  cases trees with
  | nil => rfl
  | cons tree rest =>
    rw [addTrees, addTree_eq_foldl stem scope tree, addTrees_eq_foldl stem _ rest,
      UseTree.importsOfList, List.foldl_append]

end

theorem addTree_tree (stem : List String) (scope : Scope) (imported : Import) :
    addTree modulePath stem scope imported.tree = addImport modulePath stem scope imported := by
  obtain ⟨path, leaf⟩ := imported
  induction path generalizing stem with
  | nil => simp [Import.tree, addImport]
  | cons segment rest ih =>
    have h_rest := ih (stem ++ [segment])
    rw [← addImport_behind] at h_rest
    rw [Import.tree, List.foldr_cons, addTree]
    exact h_rest

/-- The segments in front of a tree: a leading `::` is an empty one. -/
def stem (leading : Bool) : List String :=
  if leading then [""] else []

theorem addItem_use (scope : Scope) (leading : Bool) (tree : UseTree) :
    addItem modulePath scope (.use leading tree) =
      tree.imports.foldl (addImport modulePath (stem leading)) scope :=
  addTree_eq_foldl _ _ _

/-! ## Leaves that are `self` -/

theorem addImport_withoutSelf (stem : List String) (scope : Scope) {imported : Import}
    (h_self : imported.SelfFollowsName) (h_named : imported.leaf.renamesSelf → imported.path = []) :
    addImport modulePath stem scope imported.withoutSelf =
      addImport modulePath stem scope imported := by
  obtain ⟨path, leaf⟩ := imported
  rcases List.eq_nil_or_concat' path with rfl | ⟨init, last, rfl⟩
  · rfl
  simp only [Import.SelfFollowsName, List.getLast?_concat, ne_eq, Option.some.injEq] at h_self
  cases leaf with
  | name name =>
    simp only [Import.withoutSelf, List.getLast?_concat, List.dropLast_concat]
    split
    next h_name =>
      subst h_name
      have h_last : last ≠ "self" := h_self rfl
      simp [addImport, UseLeaf.tree, addTree, h_last, ← List.append_assoc]
    next => rfl
  | rename name newName =>
    simp only [Import.withoutSelf, List.getLast?_concat, List.dropLast_concat]
    split
    next h_name =>
      -- Only a leaf that binds nothing is left.
      have h_unnamed : newName = "_" := by
        by_contra h_new
        simpa using h_named (by simp [UseLeaf.renamesSelf, h_name, h_new])
      simp [addImport, UseLeaf.tree, addTree, h_unnamed]
    next => rfl
  | glob => simp [Import.withoutSelf]

theorem foldl_flattened (scope : Scope) {item : Item}
    (h_self : ∀ imported ∈ item.imports, imported.SelfFollowsName)
    (h_named : ∀ imported ∈ item.imports, imported.leaf.renamesSelf → imported.path = []) :
    item.flattened.foldl (addItem modulePath) scope = addItem modulePath scope item := by
  cases item with
  | use leading tree =>
    rw [Item.flattened, List.foldl_map, addItem_use]
    refine List.foldl_ext _ _ _ fun scope imported h_imported => ?_
    rw [addItem, addTree_tree]
    exact addImport_withoutSelf _ _ (h_self imported h_imported) (h_named imported h_imported)
  | _ => rfl

/-! ## One segment more -/

theorem absolutize_concat (modulePath : String) {segments : List String}
    (h_segments : segments ≠ []) {name : String} (h_name : name ≠ "super") :
    absolutize modulePath (segments ++ [name]) =
      (absolutize modulePath segments).map (· ++ [name]) := by
  obtain ⟨first, rest, rfl⟩ := List.exists_cons_of_ne_nil h_segments
  -- The segment behind the last one is no step towards the root.
  have h_climbs : ((first :: rest ++ [name]).takeWhile (· == "super")).length =
      ((first :: rest).takeWhile (· == "super")).length := by
    rw [List.takeWhile_append]
    split
    next h_all => simp [h_name, h_all]
    next => rfl
  have h_short : ((first :: rest).takeWhile (· == "super")).length ≤ (first :: rest).length :=
    (List.takeWhile_prefix _).length_le
  unfold absolutize
  rw [h_climbs]
  simp only [List.cons_append]
  split
  · rfl
  split
  · simp
  split
  · split
    · rfl
    · rw [← List.cons_append, List.drop_append_of_le_length h_short, ← List.append_assoc]
      rfl
  · simp

theorem absolutize_ne_nil {segments path : List String} (h_segments : segments ≠ [])
    (h_path : absolutize modulePath segments = some path) : path ≠ [] := by
  have h_base := Text.segments_ne_nil modulePath
  obtain ⟨first, rest, rfl⟩ := List.exists_cons_of_ne_nil h_segments
  unfold absolutize at h_path
  simp only at h_path
  split at h_path
  · cases h_path
    exact List.cons_ne_nil _ _
  split at h_path
  · cases h_path
    exact List.append_ne_nil_of_left_ne_nil h_base _
  split at h_path
  · split at h_path
    · cases h_path
    next h_climbs =>
      cases h_path
      refine List.append_ne_nil_of_left_ne_nil (List.ne_nil_of_length_pos ?_) _
      rw [List.length_take]
      omega
  · cases h_path
    exact List.append_ne_nil_of_left_ne_nil h_base _

/-- The path that a name is bound to, if it is bound. -/
def boundPath? (modulePath : String) (segments : List String) : Option String :=
  match Target.ofUse modulePath segments with
  | .within path => some path
  | .external => some (Text.joinSegments segments)
  | .above => none

theorem boundPath?_concat (modulePath : String) {segments : List String}
    (h_segments : segments ≠ []) {name : String} (h_name : name ≠ "super") :
    boundPath? modulePath (segments ++ [name]) =
      (boundPath? modulePath segments).map (· ++ "::" ++ name) := by
  have h_absolute := absolutize_concat modulePath h_segments h_name
  have h_nonempty {path : List String} (h_path : absolutize modulePath segments = some path) :
      path ≠ [] := absolutize_ne_nil h_segments h_path
  have h_joined := Text.joinSegments_concat h_segments name
  obtain ⟨first, rest, rfl⟩ := List.exists_cons_of_ne_nil h_segments
  rw [List.cons_append] at h_absolute h_joined ⊢
  unfold boundPath? Target.ofUse
  simp only
  split_ifs
  · simp [h_joined]
  · rw [h_absolute]
    cases h_path : absolutize modulePath (first :: rest) with
    | none => rfl
    | some path => simp [Text.joinSegments_concat (h_nonempty h_path)]

/-! ## Bindings -/

theorem find?_insertBinding (name path : String) (bindings : List (String × String)) :
    (insertBinding name path bindings).find? (·.1 == name) = some (name, path) := by
  induction bindings with
  | nil => simp [insertBinding]
  | cons binding rest ih =>
    obtain ⟨other, bound⟩ := binding
    unfold insertBinding
    split
    · simp
    next h_ne =>
      split
      · simp
      · rw [List.find?_cons_of_neg (by simpa using Ne.symm h_ne), ih]

theorem binding?_bind (scope : Scope) (newName : String) {segments : List String} {path : String}
    (h_path : boundPath? modulePath segments = some path) :
    (scope.bind modulePath newName segments).binding? (Naming.withoutRaw newName) = some path := by
  have h_inserted (path : String) (bindings : List (String × String)) :
      ((insertBinding (Naming.withoutRaw newName) path bindings).find?
        (·.1 == Naming.withoutRaw newName)).map (·.2) = some path := by
    rw [find?_insertBinding, Option.map_some]
  unfold boundPath? at h_path
  unfold bind
  cases h_target : Target.ofUse modulePath segments with
  | within target =>
    rw [h_target] at h_path
    obtain rfl := Option.some.inj h_path
    exact h_inserted _ _
  | external =>
    rw [h_target] at h_path
    obtain rfl := Option.some.inj h_path
    exact h_inserted _ _
  | above => rw [h_target] at h_path; cases h_path

theorem ofItems_append (items others : List Item) :
    ofItems modulePath (items ++ others) =
      others.foldl (addItem modulePath) (ofItems modulePath items) :=
  List.foldl_append

/-- A renamed `self` is bound to one segment more than the path that it stands for. -/
theorem binding?_renamedSelf (scope : Scope) {leading : Bool} {tree : UseTree} {path : List String}
    {newName place : String} (h_imports : tree.imports = [⟨path, .rename "self" newName⟩])
    (h_path : path ≠ []) (h_new : newName ≠ "_")
    (h_place : boundPath? modulePath (stem leading ++ path) = some place) :
    (((Item.use leading tree).flattened.foldl (addItem modulePath) scope).binding?
        (Naming.withoutRaw newName) = some place) ∧
      (addItem modulePath scope (.use leading tree)).binding? (Naming.withoutRaw newName) =
        some (place ++ "::self") := by
  have h_longer : boundPath? modulePath (stem leading ++ path ++ ["self"]) =
      some (place ++ "::self") := by
    rw [boundPath?_concat _ (List.append_ne_nil_of_right_ne_nil _ h_path) (by decide), h_place,
      Option.map_some, String.append_assoc]
    rfl
  have h_renamed : addItem modulePath scope (.use leading tree) =
      scope.bind modulePath newName (stem leading ++ path ++ ["self"]) := by
    rw [addItem_use, h_imports]
    simp [addImport, UseLeaf.tree, addTree, h_new]
  have h_flattened : (Item.use leading tree).flattened.foldl (addItem modulePath) scope =
      scope.bind modulePath newName (stem leading ++ path) := by
    obtain ⟨init, last, rfl⟩ := (List.eq_nil_or_concat' path).resolve_left h_path
    rw [Item.flattened, h_imports, List.map_singleton, List.foldl_cons, List.foldl_nil, addItem,
      addTree_tree]
    simp [Import.withoutSelf, addImport, UseLeaf.tree, addTree, h_new, stem]
  rw [h_flattened, h_renamed]
  exact ⟨binding?_bind _ _ h_place, binding?_bind _ _ h_longer⟩

/-! ## Flattening keeps scopes -/

/-- Flattening groups keeps the scope of a module, as long as no `self` is renamed.  A renamed
    one is bound one segment too far, unless its path leads above the crate root and binds nothing
    at all. -/
theorem ofItems_flattened (modulePath : String) (items : List Item)
    (h_self : ∀ item ∈ items, ∀ imported ∈ item.imports, imported.SelfFollowsName) :
    ((∀ item ∈ items, ∀ imported ∈ item.imports,
        imported.leaf.renamesSelf → imported.path = []) →
      ofItems modulePath (items.flatMap Item.flattened) = ofItems modulePath items) ∧
    ∀ leading tree path newName, UseTree.imports tree = [⟨path, .rename "self" newName⟩] →
      path ≠ [] → newName ≠ "_" → Target.ofUse modulePath (stem leading ++ path) ≠ .above →
      ∃ place,
        (ofItems modulePath (items ++ (Item.use leading tree).flattened)).binding?
          (Naming.withoutRaw newName) = some place ∧
        (ofItems modulePath (items ++ [.use leading tree])).binding?
          (Naming.withoutRaw newName) = some (place ++ "::self") := by
  constructor
  · intro h_named
    rw [ofItems, List.foldl_flatMap]
    refine List.foldl_ext _ _ _ fun scope item h_item => ?_
    exact foldl_flattened scope (h_self item h_item) (h_named item h_item)
  · intro leading tree path newName h_imports h_path h_new h_target
    have h_place : ∃ place, boundPath? modulePath (stem leading ++ path) = some place := by
      unfold boundPath?
      cases h_use : Target.ofUse modulePath (stem leading ++ path) with
      | above => exact absurd h_use h_target
      | within place => exact ⟨_, rfl⟩
      | external => exact ⟨_, rfl⟩
    obtain ⟨place, h_place⟩ := h_place
    rw [ofItems_append, ofItems_append]
    exact ⟨place, binding?_renamedSelf _ h_imports h_path h_new h_place⟩

/-- `use crate::{a::{self, b::{C as D, *}}, E};` -/
def groupedItem : Item :=
  .use false (.path "crate" (.group
    [.path "a" (.group [.name "self", .path "b" (.group [.rename "C" "D", .glob])]), .name "E"]))

/-- `use crate::a::{self as b};` -/
def renamedSelfItem : Item :=
  .use false (.path "crate" (.path "a" (.group [.rename "self" "b"])))

theorem ofItems_flattened_groupedItem :
    ofItems "crate::m" ([groupedItem].flatMap Item.flattened) = ofItems "crate::m" [groupedItem] ∧
    ofItems "crate::m" [groupedItem] =
      { bindings := [("D", "crate::a::b::C"), ("E", "crate::E"), ("a", "crate::a")]
        globs := ["crate::a::b"] } ∧
    ∃ place,
      (ofItems "crate::m" ([groupedItem] ++ renamedSelfItem.flattened)).binding? "b" =
        some place ∧
      (ofItems "crate::m" ([groupedItem] ++ [renamedSelfItem])).binding? "b" =
        some (place ++ "::self") := by
  obtain ⟨h_flattened, h_renamed⟩ := ofItems_flattened "crate::m" [groupedItem] (by decide)
  refine ⟨h_flattened (by decide), by decide +kernel, ?_⟩
  exact h_renamed false _ ["crate", "a"] "b" rfl (by decide) (by decide) (by decide +kernel)

theorem ofItems_flattened_ne_renamedSelf :
    renamedSelfItem.imports = [⟨["crate", "a"], .rename "self" "b"⟩] ∧
    ofItems "crate::m" ([renamedSelfItem].flatMap Item.flattened) ≠
      ofItems "crate::m" [renamedSelfItem] := by
  refine ⟨?_, ?_⟩ <;> decide +kernel

end Scope
end FieldDelta
