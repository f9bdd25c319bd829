import FieldDelta.Candidate
import FieldDelta.Files.Tree

/-! # Discovery of source files

Discovery follows the `mod` declarations of a crate from its root file on.  Files that no module
declares are never read, and neither are modules that are compiled for tests only.

* `declaredModules` — the files that the modules declared in a file are in;
* `discover` — the source files of a crate, in the order of their paths.
-/

namespace FieldDelta

open Files Syntax

/-- A file, and the module that its items live in. -/
structure SourceFile where
  modulePath : String
  path : String
deriving DecidableEq, Repr

/-- A source file that is still to be read, with the directory of its submodules. -/
structure PendingFile extends SourceFile where
  childrenDir : String
deriving DecidableEq, Repr

/-- Why source files cannot be found or read. -/
inductive SourceError where
  /-- A crate without a root file. -/
  | missingRoot (root : String)
  | unreadable (path : String) (cause : SystemError)
deriving DecidableEq, Repr

/-! ## Where modules are -/

/-- The value of an attribute `path = "…"`. -/
def pathAttribute? (attributes : List Attribute) : Option String :=
  attributes.findSome? fun attr =>
    match attr.input with
    | .value [.token (.literal text)] =>
      if attr.isNamed "path" then Literal.stringValue? text else none
    | _ => none

/-- The file of a module declared by `mod name;`, where `dir` is the directory of submodules. -/
def moduleFile? (tree : Tree) (attributes : List Attribute) (name dir : String) : Option String :=
  let places := match pathAttribute? attributes with
    | some path => [Path.join dir path]
    | none => [Path.join dir (name ++ ".rs"), Path.join (Path.join dir name) "mod.rs"]
  places.find? tree.isFile

/-- The directory of the submodules of a file: its own if it is called `mod`, else the one of its
    name beside it. -/
def childrenDir (path : String) : String :=
  let parent := (Path.parent? path).getD ""
  match Path.stem? path with
  | some stem => if stem = "mod" then parent else Path.join parent stem
  | none => parent

mutual

/-- The file of the module that an item declares, and of those declared inside it.  `dir` is the
    directory of submodules. -/
def declaredModule (tree : Tree) (modulePath dir : String) : Item → List PendingFile
  | .submodule attributes name (some contents) =>
    if attributes.any Attribute.isTestOnly then []
    else
      let name := Naming.withoutRaw name
      declaredModules tree (modulePath ++ "::" ++ name) (Path.join dir name) contents
  | .submodule attributes name none =>
    if attributes.any Attribute.isTestOnly then []
    else
      let name := Naming.withoutRaw name
      match moduleFile? tree attributes name dir with
      | some path =>
        [{ modulePath := modulePath ++ "::" ++ name, path := path,
           childrenDir := childrenDir path }]
      | none => []
  | _ => []

/-- The files of the modules that items declare, in the order of the declarations.  Modules
    without a file are left out. -/
def declaredModules (tree : Tree) (modulePath dir : String) : List Item → List PendingFile
  | [] => []
  | item :: rest =>
    declaredModule tree modulePath dir item ++ declaredModules tree modulePath dir rest

end

/-! ## Following declarations -/

/-- The files of the modules declared in a file with the given text.  A text that does not parse
    declares none. -/
def PendingFile.declared (file : PendingFile) (tree : Tree) (text : String) : List PendingFile :=
  match parseFile? text with
  | some items => declaredModules tree file.modulePath file.childrenDir items
  | none => []

/-- Reads pending files and the files declared in them, the last one declared first.  A path is
    read once; `seen` holds the paths already read.  At most `limit` files are read. -/
def explore (tree : Tree) :
    Nat → List String → List PendingFile → Except SourceError (List SourceFile)
  | 0, _, _ => .ok []
  | limit + 1, seen, pending =>
    match pending.dropWhile fun file => seen.any (Path.same file.path) with
    | [] => .ok []
    | file :: rest =>
      match tree.readText file.path with
      | .error cause => .error (.unreadable file.path cause)
      | .ok text =>
        let pending := (file.declared tree text).reverse ++ rest
        match explore tree limit (file.path :: seen) pending with
        | .error error => .error error
        | .ok others => .ok (file.toSourceFile :: others)

/-- The number of byte sequences that are short enough for a path. -/
def pathCount : Nat :=
  Nat.pow 256 (Tree.maxPathBytes + 1)

/-- The root file of the crate in a directory: `lib.rs`, or else `main.rs`. -/
def rootFile? (tree : Tree) (root : String) : Option String :=
  [Path.join root "lib.rs", Path.join root "main.rs"].find? tree.isFile

/-- Source files in the order of their paths. -/
def sortByPath (files : List SourceFile) : List SourceFile :=
  files.mergeSort fun a b => !Path.before b.path a.path

/-- The source files of the crate in the directory `root`, in the order of their paths.  A file
    that does not parse is among them, but what it declares is not. -/
def discover (tree : Tree) (root : String) : Except SourceError (List SourceFile) :=
  match rootFile? tree root with
  | none => .error (.missingRoot root)
  | some path =>
    (explore tree pathCount []
      [{ modulePath := "crate", path := path, childrenDir := root }]).map sortByPath

end FieldDelta
