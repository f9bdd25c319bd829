import FieldDelta.Proofs.Resolution.Imports
import FieldDelta.Rehoming

/-! # Renaming phrases and imports

A renaming is a function on names.  It may be applied to the names of all paths in a phrase, and to
the segments and the new names of a `use` tree.  What is taken out of a renamed tree is what is
taken out of the tree, renamed:

* `paths_mapNames` — the paths of a phrase;
* `imports_mapNames` — the imports of a `use` tree.
-/

namespace FieldDelta.Syntax

/-! ## Phrases -/

mutual

/-- A fragment with the names of its paths renamed. -/
def Fragment.mapNames (rename : String → String) : Fragment → Fragment
  | .token tree => .token tree
  | .path path => .path (path.mapNames rename)
  | .qualified self position path =>
    .qualified (Fragment.mapNamesList rename self) position (path.mapNames rename)
  | .group delimiter inner => .group delimiter (Fragment.mapNamesList rename inner)
  | .angle elements trailing => .angle (Argument.mapNamesList rename elements) trailing
  | .part turn inner => .part turn (Fragment.mapNamesList rename inner)
  | .construct inner => .construct (Fragment.mapNamesList rename inner)
  | .implied type => .implied (Fragment.mapNamesList rename type)

def Fragment.mapNamesList (rename : String → String) : List Fragment → List Fragment
  | [] => []
  | fragment :: rest => fragment.mapNames rename :: Fragment.mapNamesList rename rest

/-- A path with its names renamed, and those in its arguments. -/
def Path.mapNames (rename : String → String) : Path → Path
  | .mk leading segments => .mk leading (Segment.mapNamesList rename segments)

def Segment.mapNamesList (rename : String → String) : List Segment → List Segment
  | [] => []
  | .mk name arguments :: rest =>
    .mk (rename name) (arguments.mapNames rename) :: Segment.mapNamesList rename rest

def Arguments.mapNames (rename : String → String) : Arguments → Arguments
  | .none => .none
  | .angle turbofish arguments trailing =>
    .angle turbofish (Argument.mapNamesList rename arguments) trailing
  | .parenthesized phrase => .parenthesized (Fragment.mapNamesList rename phrase)

def Argument.mapNamesList (rename : String → String) : List Argument → List Argument
  | [] => []
  | .mk kind phrase :: rest =>
    .mk kind (Fragment.mapNamesList rename phrase) :: Argument.mapNamesList rename rest

end

/-- A phrase with the names of its paths renamed. -/
def Phrase.mapNames (rename : String → String) (phrase : Phrase) : Phrase :=
  Fragment.mapNamesList rename phrase

def Segment.mapNames (rename : String → String) : Segment → Segment
  | .mk name arguments => .mk (rename name) (arguments.mapNames rename)

variable {rename : String → String}

theorem Segment.mapNamesList_eq_map (segments : List Segment) :
    Segment.mapNamesList rename segments = segments.map (Segment.mapNames rename) := by
  induction segments with
  | nil => rfl
  | cons segment rest ih =>
    cases segment
    rw [Segment.mapNamesList, ih]
    rfl

theorem leading_mapNames (path : Path) : (path.mapNames rename).leading = path.leading := by
  cases path
  rfl

theorem segments_mapNames (path : Path) :
    (path.mapNames rename).segments = path.segments.map (Segment.mapNames rename) := by
  cases path
  exact Segment.mapNamesList_eq_map _

theorem names_mapNames (path : Path) : (path.mapNames rename).names = path.names.map rename := by
  rw [Path.names, segments_mapNames, Path.names, List.map_map, List.map_map]
  refine List.map_congr_left fun segment _ => ?_
  cases segment
  rfl

/-- A path among those of a phrase, renamed in its turn. -/
def renamedInTurn (rename : String → String) (found : Turn × Path) : Turn × Path :=
  (found.1, found.2.mapNames rename)

theorem inTurns_renamed (found : List (Turn × Path)) :
    inTurns (found.map (renamedInTurn rename)) = (inTurns found).map (Path.mapNames rename) := by
  simp only [inTurns, List.filter_map, List.map_flatMap, List.map_map]
  rfl

mutual

theorem Fragment.paths_mapNames (turn : Turn) (fragment : Fragment) :
    (fragment.mapNames rename).paths turn =
      (fragment.paths turn).map (renamedInTurn rename) := by
  cases fragment with
  | token tree => rfl
  | path path => exact Path.paths_mapNames turn path
  | qualified self position path =>
    simp only [Fragment.mapNames, Fragment.paths, Fragment.pathsOfList_mapNames turn self,
      Path.paths_mapNames turn path, List.map_append]
  | group delimiter inner => exact Fragment.pathsOfList_mapNames turn inner
  | angle elements trailing => exact Argument.pathsOfList_mapNames turn elements
  | part turn inner => exact Fragment.pathsOfList_mapNames turn inner
  | construct inner =>
    simp only [Fragment.mapNames, Fragment.paths, Fragment.pathsOfList_mapNames .body inner,
      inTurns_renamed, List.map_map]
    rfl
  | implied type => exact Fragment.pathsOfList_mapNames turn type

theorem Fragment.pathsOfList_mapNames (turn : Turn) (phrase : List Fragment) :
    Fragment.pathsOfList turn (Fragment.mapNamesList rename phrase) =
      (Fragment.pathsOfList turn phrase).map (renamedInTurn rename) := by
  cases phrase with
  | nil => rfl
  | cons fragment rest =>
    simp only [Fragment.mapNamesList, Fragment.pathsOfList, Fragment.paths_mapNames turn fragment,
      Fragment.pathsOfList_mapNames turn rest, List.map_append]

theorem Path.paths_mapNames (turn : Turn) (path : Path) :
    (path.mapNames rename).paths turn = (path.paths turn).map (renamedInTurn rename) := by
  obtain ⟨leading, segments⟩ := path
  simp only [Path.mapNames, Path.paths, Segment.pathsOfList_mapNames turn segments, List.map_cons,
    renamedInTurn]

theorem Segment.pathsOfList_mapNames (turn : Turn) (segments : List Segment) :
    Segment.pathsOfList turn (Segment.mapNamesList rename segments) =
      (Segment.pathsOfList turn segments).map (renamedInTurn rename) := by
  cases segments with
  | nil => rfl
  | cons segment rest =>
    obtain ⟨name, arguments⟩ := segment
    simp only [Segment.mapNamesList, Segment.pathsOfList, Arguments.paths_mapNames turn arguments,
      Segment.pathsOfList_mapNames turn rest, List.map_append]

theorem Arguments.paths_mapNames (turn : Turn) (arguments : Arguments) :
    (arguments.mapNames rename).paths turn =
      (arguments.paths turn).map (renamedInTurn rename) := by
  cases arguments with
  | none => rfl
  | angle turbofish elements trailing => exact Argument.pathsOfList_mapNames turn elements
  | parenthesized phrase => exact Fragment.pathsOfList_mapNames turn phrase

theorem Argument.pathsOfList_mapNames (turn : Turn) (elements : List Argument) :
    Argument.pathsOfList turn (Argument.mapNamesList rename elements) =
      (Argument.pathsOfList turn elements).map (renamedInTurn rename) := by
  cases elements with
  | nil => rfl
  | cons argument rest =>
    obtain ⟨kind, phrase⟩ := argument
    simp only [Argument.mapNamesList, Argument.pathsOfList,
      Fragment.pathsOfList_mapNames turn phrase, Argument.pathsOfList_mapNames turn rest,
      List.map_append]

end

/-- The paths of a renamed phrase are the renamed paths of the phrase. -/
theorem paths_mapNames (phrase : Phrase) :
    Phrase.paths (Phrase.mapNames rename phrase) =
      (Phrase.paths phrase).map (Path.mapNames rename) := by
  rw [Phrase.paths, Phrase.mapNames, Fragment.pathsOfList_mapNames, inTurns_renamed]
  rfl

/-! ## Imports -/

mutual

/-- A `use` tree with its segments renamed, and the new names that it gives. -/
def UseTree.mapNames (rename renameNew : String → String) : UseTree → UseTree
  | .path segment tree => .path (rename segment) (tree.mapNames rename renameNew)
  | .name original => .name (rename original)
  | .rename original newName => .rename (rename original) (renameNew newName)
  | .glob => .glob
  | .group trees => .group (UseTree.mapNamesList rename renameNew trees)

def UseTree.mapNamesList (rename renameNew : String → String) : List UseTree → List UseTree
  | [] => []
  | tree :: rest => tree.mapNames rename renameNew :: UseTree.mapNamesList rename renameNew rest

end

def Item.mapImports (rename renameNew : String → String) : Item → Item
  | .use leading tree => .use leading (tree.mapNames rename renameNew)
  | item => item

def UseLeaf.mapNames (rename renameNew : String → String) : UseLeaf → UseLeaf
  | .name original => .name (rename original)
  | .rename original newName => .rename (rename original) (renameNew newName)
  | .glob => .glob

def Import.mapNames (rename renameNew : String → String) (imported : Import) : Import where
  path := imported.path.map rename
  leaf := imported.leaf.mapNames rename renameNew

variable {renameNew : String → String}

mutual

/-- A renamed `use` tree imports what the tree does, renamed. -/
theorem imports_mapNames (tree : UseTree) :
    (tree.mapNames rename renameNew).imports =
      tree.imports.map (Import.mapNames rename renameNew) := by
  cases tree with
  | path segment tree =>
    simp only [UseTree.mapNames, UseTree.imports, imports_mapNames tree, List.map_map]
    rfl
  | name original => rfl
  | rename original newName => rfl
  | glob => rfl
  | group trees => exact importsOfList_mapNames trees

theorem importsOfList_mapNames (trees : List UseTree) :
    UseTree.importsOfList (UseTree.mapNamesList rename renameNew trees) =
      (UseTree.importsOfList trees).map (Import.mapNames rename renameNew) := by
  cases trees with
  | nil => rfl
  | cons tree rest =>
    simp only [UseTree.mapNamesList, UseTree.importsOfList, imports_mapNames tree,
      importsOfList_mapNames rest, List.map_append]

end

end FieldDelta.Syntax
