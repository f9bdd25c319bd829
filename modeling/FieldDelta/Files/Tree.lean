import FieldDelta.Files.Path

/-! # File trees

A file tree holds the files and directories below a working directory.  A path is followed
through it component by component: a directory has to exist before `..` leads out of it again.
Nothing exists outside the working directory.

* `Tree.locate` — where a path leads;
* `Tree.readText`, `Tree.isFile`, `Tree.isDirectory` — looking at it;
* `Tree.makeDirectories`, `Tree.writeText`, `Tree.remove` — changing it.
-/

namespace FieldDelta.Files

/-! ## Failures -/

/-- Why the system refuses an operation. -/
inductive SystemError where
  | notFound
  | alreadyThere
  | notADirectory
  | isADirectory
  | nameTooLong
  /-- The contents of a file are not text. -/
  | notText
deriving DecidableEq, Repr

def SystemError.message : SystemError → String
  | notFound => "No such file or directory (os error 2)"
  | alreadyThere => "File exists (os error 17)"
  | notADirectory => "Not a directory (os error 20)"
  | isADirectory => "Is a directory (os error 21)"
  | nameTooLong => "File name too long (os error 36)"
  | notText => "stream did not contain valid UTF-8"

/-! ## Trees -/

/-- The contents of a file, which are looked at as text only. -/
inductive Contents where
  | text (text : String)
  /-- Bytes that are not UTF-8. -/
  | notText
deriving DecidableEq, Repr

/-- What is found at a location. -/
inductive Node where
  | file (contents : Contents)
  | directory
deriving DecidableEq, Repr

/-- A place in a tree: the names on the way to it. -/
abbrev Location := List String

/-- A file tree: what is found at each location but the working directory itself. -/
structure Tree where
  entries : List (Location × Node) := []
deriving DecidableEq, Repr

namespace Tree

def node? (tree : Tree) (location : Location) : Option Node :=
  if location = [] then some .directory
  else (tree.entries.find? (·.1 == location)).map (·.2)

def put (tree : Tree) (location : Location) (node : Node) : Tree where
  entries := (location, node) :: tree.entries.filter (·.1 != location)

def erase (tree : Tree) (location : Location) : Tree where
  entries := tree.entries.filter fun entry => !location.isPrefixOf entry.1

/-- The names in a directory, in rising order. -/
def names (tree : Tree) (location : Location) : List String :=
  (tree.entries.filterMap fun entry =>
    match entry.1.getLast? with
    | some name => if entry.1.dropLast = location then some name else none
    | none => none).mergeSort fun a b => decide (a ≤ b)

/-! ## Following paths -/

/-- The longest path, in bytes, that the system accepts. -/
def maxPathBytes : Nat := 4095

/-- The longest name, in bytes, that the system accepts. -/
def maxNameBytes : Nat := 255

def walk (tree : Tree) (location : Location) : List String → Except SystemError Location
  | [] => .ok location
  | name :: rest =>
    if tree.node? location ≠ some .directory then .error .notADirectory
    else if name = "." then tree.walk location rest
    else if name = ".." then
      if location = [] then .error .notFound else tree.walk location.dropLast rest
    else if maxNameBytes < name.utf8ByteSize then .error .nameTooLong
    else if (tree.node? (location ++ [name])).isSome then tree.walk (location ++ [name]) rest
    else .error .notFound

/-- The names that a path leads along, dots included. -/
def pathNames (path : String) : List String :=
  (Path.pieces path.toList).filterMap fun piece =>
    if piece.isEmpty then none else some (String.ofList piece)

/-- A path that ends with a slash leads into a directory. -/
def endingNames (path : String) : List String :=
  if path.toList.getLast? == some '/' then ["."] else []

/-- Refuses paths that the tree does not reach, whatever it holds. -/
def checkPath (path : String) : Except SystemError Unit :=
  if path.isEmpty || Path.isAbsolute path then .error .notFound
  else if maxPathBytes < path.utf8ByteSize then .error .nameTooLong
  else .ok ()

def locate (tree : Tree) (path : String) : Except SystemError Location := do
  checkPath path
  tree.walk [] (pathNames path ++ endingNames path)

/-- The directory that a path leads through last, and the name in it.  There is no name if the
    path ends with a dot or two. -/
def locateParent (tree : Tree) (path : String) : Except SystemError (Location × Option String) := do
  checkPath path
  let names := pathNames path
  let location ← tree.walk [] (names.dropLast ++ ["."])
  match names.getLast? with
  | none => return (location, none)
  | some name =>
    if name = "." ∨ name = ".." then return (location, none)
    else if maxNameBytes < name.utf8ByteSize then throw .nameTooLong
    else return (location, some name)

/-! ## Looking -/

def lookup (tree : Tree) (path : String) : Except SystemError Node := do
  match tree.node? (← tree.locate path) with
  | some node => return node
  | none => throw .notFound

def isFile (tree : Tree) (path : String) : Bool :=
  match tree.lookup path with
  | .ok (.file _) => true
  | _ => false

def isDirectory (tree : Tree) (path : String) : Bool :=
  match tree.lookup path with
  | .ok .directory => true
  | _ => false

def readText (tree : Tree) (path : String) : Except SystemError String := do
  match ← tree.lookup path with
  | .file (.text text) => return text
  | .file .notText => throw .notText
  | .directory => throw .isADirectory

/-- The names in a directory, in rising order; none if there is no such directory. -/
def list (tree : Tree) (path : String) : List String :=
  match tree.locate path with
  | .ok location => tree.names location
  | .error _ => []

/-! ## Changing -/

def makeDirectory (tree : Tree) (path : String) : Except SystemError Tree := do
  match ← tree.locateParent path with
  | (_, none) => throw .alreadyThere
  | (parent, some name) =>
    if (tree.node? (parent ++ [name])).isSome then throw .alreadyThere
    else return tree.put (parent ++ [name]) .directory

/-- A path and the ones it lies in, from the innermost on, at most `limit` of them. -/
def ancestors (path : String) : Nat → List String
  | 0 => []
  | limit + 1 =>
    match Path.parent? path with
    | some parent => path :: ancestors parent limit
    | none => []

/-- Makes the first of several directories, each of which lies in the next.  Those that are
    missing are made first; they stay even if a later step fails. -/
def makeInnermost (tree : Tree) : List String → Except SystemError Unit × Tree
  | [] => (.ok (), tree)
  | path :: outer =>
    let settle (tree : Tree) (error : SystemError) : Except SystemError Unit × Tree :=
      if error = .alreadyThere ∧ tree.isDirectory path then (.ok (), tree) else (.error error, tree)
    match tree.makeDirectory path with
    | .ok tree => (.ok (), tree)
    | .error .notFound =>
      match tree.makeInnermost outer with
      | (.error error, tree) => (.error error, tree)
      | (.ok (), tree) =>
        match tree.makeDirectory path with
        | .ok tree => (.ok (), tree)
        | .error error => settle tree error
    | .error error => settle tree error

/-- Makes a directory and those it lies in, where they are missing. -/
def makeDirectories (tree : Tree) (path : String) : Except SystemError Unit × Tree :=
  tree.makeInnermost (ancestors path (path.length + 1))

/-- Writes a text to a file, which may be new.  Its directory must exist. -/
def writeText (tree : Tree) (path text : String) : Except SystemError Tree := do
  match ← tree.locateParent path with
  | (_, none) => throw .isADirectory
  | (parent, some name) =>
    if tree.node? (parent ++ [name]) = some .directory then throw .isADirectory
    else return tree.put (parent ++ [name]) (.file (.text text))

def remove (tree : Tree) (path : String) : Tree :=
  match tree.locate path with
  | .ok location => tree.erase location
  | .error _ => tree

end Tree
end FieldDelta.Files
