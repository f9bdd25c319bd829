import FieldDelta.Naming
import FieldDelta.Syntax.Item

/-! # Import scopes

The scope of a module is what its `use` items bring in: names bound to paths, and modules whose
contents are all brought in.  Paths inside the crate are kept from the crate root on.

* `Target` — where a path leads, seen from a module;
* `Scope` — the bindings, sorted by name, and the glob imports in source order;
* `Scope.ofItems` — the scope of a list of items.
-/

namespace FieldDelta

open Syntax

/-- Crates whose contents are never tracked. -/
def externalRoots : List String :=
  ["std", "core", "alloc", "proc_macro", "test"]

/-- Resolves `crate`, `self` and leading `super` segments against a module.  There is no answer
    for a path that climbs above the crate root. -/
def absolutize (modulePath : String) (segments : List String) : Option (List String) :=
  let base := Text.segments modulePath
  match segments with
  | [] => some base
  | first :: rest =>
    if first = "crate" then some segments
    else if first = "self" then some (base ++ rest)
    else if first = "super" then
      let climbs := (segments.takeWhile (· == "super")).length
      if base.length ≤ climbs then none
      else some (base.take (base.length - climbs) ++ segments.drop climbs)
    else some (base ++ segments)

/-- Where the path of a `use` item leads. -/
inductive Target where
  /-- To a path of the crate. -/
  | within (path : String)
  /-- Out of the crate. -/
  | external
  /-- Above the crate root. -/
  | above
deriving DecidableEq, Repr

/-- Where the path of a `use` item leads; an empty first segment stands for a leading `::`. -/
def Target.ofUse (modulePath : String) (segments : List String) : Target :=
  match segments with
  | [] => .external
  | first :: _ =>
    if first = "" ∨ externalRoots.contains first then .external
    else match absolutize modulePath segments with
      | some path => .within (Text.joinSegments path)
      | none => .above

/-- The names that a module's `use` items bring into scope. -/
structure Scope where
  /-- Bound names in rising order, each once, with the paths they stand for. -/
  bindings : List (String × String) := []
  /-- Modules whose contents are brought in, in source order. -/
  globs : List String := []
deriving DecidableEq, Repr

/-- Puts a binding at its place; one for the same name is replaced. -/
def insertBinding (name path : String) : List (String × String) → List (String × String)
  | [] => [(name, path)]
  | (other, bound) :: rest =>
    if name = other then (name, path) :: rest
    else if name < other then (name, path) :: (other, bound) :: rest
    else (other, bound) :: insertBinding name path rest

namespace Scope

/-- The path that `name` is bound to. -/
def binding? (scope : Scope) (name : String) : Option String :=
  (scope.bindings.find? (·.1 == name)).map (·.2)

/-- Binds `newName` to the path with the given segments.  A path above the crate root binds
    nothing. -/
def bind (scope : Scope) (modulePath newName : String) (segments : List String) : Scope :=
  let bindTo (path : String) :=
    { scope with bindings := insertBinding (Naming.withoutRaw newName) path scope.bindings }
  match Target.ofUse modulePath segments with
  | .within path => bindTo path
  | .external => bindTo (Text.joinSegments segments)
  | .above => scope

/-- Brings in the contents of the module with the given segments, if it is one of the crate. -/
def addGlob (scope : Scope) (modulePath : String) (segments : List String) : Scope :=
  match Target.ofUse modulePath segments with
  | .within path => { scope with globs := scope.globs ++ [path] }
  | _ => scope

mutual

/-- The scope with what one tree brings in behind the segments `stem`.  `self` stands for the
    stem itself, under the name of its last segment; the name `_` binds nothing. -/
def addTree (modulePath : String) (stem : List String) (scope : Scope) : UseTree → Scope
  | .path name tree => addTree modulePath (stem ++ [name]) scope tree
  | .name name =>
    if name = "self" then
      match stem.getLast? with
      | some last => scope.bind modulePath last stem
      | none => scope
    else scope.bind modulePath name (stem ++ [name])
  | .rename name newName =>
    if newName = "_" then scope else scope.bind modulePath newName (stem ++ [name])
  | .glob => scope.addGlob modulePath stem
  | .group trees => addTrees modulePath stem scope trees

def addTrees (modulePath : String) (stem : List String) (scope : Scope) : List UseTree → Scope
  | [] => scope
  | tree :: rest => addTrees modulePath stem (addTree modulePath stem scope tree) rest

end

def addItem (modulePath : String) (scope : Scope) : Item → Scope
  | .use leading tree => addTree modulePath (if leading then [""] else []) scope tree
  | _ => scope

/-- The scope of the items of a module.  Later bindings replace earlier ones. -/
def ofItems (modulePath : String) (items : List Item) : Scope :=
  items.foldl (addItem modulePath) {}

end Scope
end FieldDelta
