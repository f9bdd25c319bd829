/-! # File paths

A path is a text whose components stand between slashes.  Two paths are the same if they have the
same components: repeated slashes, slashes at the end, and single dots behind the first component
do not count.

* `components` — the components of a path;
* `before` — the order of paths, component by component;
* `join`, `parent?`, `stem?` — putting paths together and taking them apart.
-/

namespace FieldDelta.Files

/-- A component of a path.  A dot is one only where the path begins with it. -/
inductive Component where
  | root
  | current
  | parent
  | normal (name : String)
deriving DecidableEq, Repr

namespace Component

/-- The place of a component's kind in the order of components. -/
def rank : Component → Nat
  | root => 0
  | current => 1
  | parent => 2
  | normal _ => 3

def before : Component → Component → Bool
  | normal a, normal b => decide (a < b)
  | a, b => decide (a.rank < b.rank)

end Component

namespace Path

/-- The texts between the slashes of a path. -/
def pieces : List Char → List (List Char)
  | [] => [[]]
  | c :: rest =>
    if c = '/' then [] :: pieces rest
    else match pieces rest with
      | [] => [[c]]
      | piece :: others => (c :: piece) :: others

def isAbsolute (path : String) : Bool :=
  path.toList.head? == some '/'

/-- The component that a piece stands for; empty pieces and dots stand for none. -/
def component? (piece : List Char) : Option Component :=
  match piece with
  | [] => none
  | ['.'] => none
  | ['.', '.'] => some .parent
  | _ => some (.normal (String.ofList piece))

/-- What a path begins with, besides its pieces: the root, or the current directory. -/
def beginning (path : String) : List Component :=
  if isAbsolute path then [.root]
  else if (pieces path.toList).head? == some ['.'] then [.current]
  else []

def components (path : String) : List Component :=
  beginning path ++ (pieces path.toList).filterMap component?

def same (a b : String) : Bool :=
  components a == components b

def componentsBefore : List Component → List Component → Bool
  | [], [] => false
  | [], _ :: _ => true
  | _ :: _, [] => false
  | a :: as, b :: bs => if a = b then componentsBefore as bs else a.before b

/-- Whether one path stands before another. -/
def before (a b : String) : Bool :=
  componentsBefore (components a) (components b)

/-- A path behind another one.  An absolute path stands for itself. -/
def join (base path : String) : String :=
  if isAbsolute path || base.isEmpty then path
  else if base.toList.getLast? == some '/' then base ++ path
  else base ++ "/" ++ path

/-- Drops, from the reversed text of a path, what does not count at its end. -/
def dropIdleEnd : List Char → List Char
  | '/' :: rest => dropIdleEnd rest
  | '.' :: '/' :: rest => dropIdleEnd ('/' :: rest)
  | cs => cs

/-- The reversed text of a path without what does not count at its end.  The slash of the root
    stays. -/
def withoutIdleEnd (path : String) : List Char :=
  match dropIdleEnd path.toList.reverse with
  | [] => if isAbsolute path then ['/'] else []
  | cs => cs

/-- The path without its last component, if it has one to drop. -/
def parent? (path : String) : Option String :=
  match (components path).getLast? with
  | none => none
  | some .root => none
  | some _ =>
    let before := (withoutIdleEnd path).dropWhile (· != '/')
    some (String.ofList (withoutIdleEnd (String.ofList before.reverse)).reverse)

/-- A file name without its extension.  A dot at the beginning starts none. -/
def nameStem (name : List Char) : List Char :=
  match name.reverse.dropWhile (· != '.') with
  | '.' :: [] => name
  | '.' :: before => before.reverse
  | _ => name

/-- The file name at the end of a path, without its extension. -/
def stem? (path : String) : Option String :=
  match (components path).getLast? with
  | some (.normal name) => some (String.ofList (nameStem name.toList))
  | _ => none

end Path
end FieldDelta.Files
