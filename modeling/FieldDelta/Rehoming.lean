import FieldDelta.Naming
import FieldDelta.Syntax.Phrase
import FieldDelta.Text.Substitution

/-! # Rehoming and spelling types

Generated code lives one module below the model and sees everything the model's module sees.
Plain names keep their meaning there; paths anchored at the declaring module need one more
`super`, and `Self` has to be spelled out.

* `Phrase.rehome` — the phrase with its anchored paths moved;
* `rehomeType` — the same, refused when a path climbs above the crate root;
* `spellType` — the compact text of a type.
-/

namespace FieldDelta.Syntax

/-! ## Moving anchored paths -/

def ownerIdentifier (owner : String) : String :=
  if Naming.isKeyword owner then "r#" ++ owner else owner

def Segment.renamed (segment : Segment) (name : String) : Segment :=
  .mk name segment.arguments

/-- The segments of a path without leading `::`, seen from one module deeper. -/
def rehomeSegments (owner : String) : List Segment → List Segment
  | [] => []
  | first :: rest =>
    if first.name = "Self" then
      first.renamed "super" :: Segment.plain (ownerIdentifier owner) :: rest
    else if first.name = "self" then first.renamed "super" :: rest
    else if first.name = "super" then Segment.plain "super" :: first :: rest
    else first :: rest

/-- The segments of a path, seen from one module deeper.  A leading `::` leaves the crate. -/
def rehomePathSegments (owner : String) (leading : Bool) (segments : List Segment) :
    List Segment :=
  if leading then segments else rehomeSegments owner segments

mutual

/-- A fragment with its anchored paths moved.  The position of a qualified path is kept. -/
def Fragment.rehome (owner : String) : Fragment → Fragment
  | .token tree => .token tree
  | .path path => .path (path.rehome owner)
  | .qualified self position path =>
    .qualified (Fragment.rehomeList owner self) position (path.rehome owner)
  | .group delimiter inner => .group delimiter (Fragment.rehomeList owner inner)
  | .angle elements trailing => .angle (Argument.rehomeList owner elements) trailing
  | .part turn inner => .part turn (Fragment.rehomeList owner inner)
  | .construct inner => .construct (Fragment.rehomeList owner inner)
  | .implied type => .implied (Fragment.rehomeList owner type)

/-- Several fragments with their anchored paths moved. -/
def Fragment.rehomeList (owner : String) : List Fragment → List Fragment
  | [] => []
  | fragment :: rest => fragment.rehome owner :: Fragment.rehomeList owner rest

/-- A path seen from one module deeper, its arguments included. -/
def Path.rehome (owner : String) : Path → Path
  | .mk leading segments =>
    .mk leading (rehomePathSegments owner leading (Segment.rehomeList owner segments))

/-- Segments with the paths inside their arguments moved. -/
def Segment.rehomeList (owner : String) : List Segment → List Segment
  | [] => []
  | .mk name arguments :: rest =>
    .mk name (arguments.rehome owner) :: Segment.rehomeList owner rest

/-- Arguments with the paths inside them moved. -/
def Arguments.rehome (owner : String) : Arguments → Arguments
  | .none => .none
  | .angle turbofish arguments trailing =>
    .angle turbofish (Argument.rehomeList owner arguments) trailing
  | .parenthesized phrase => .parenthesized (Fragment.rehomeList owner phrase)

/-- Several arguments with the paths inside them moved. -/
def Argument.rehomeList (owner : String) : List Argument → List Argument
  | [] => []
  | .mk kind phrase :: rest =>
    .mk kind (Fragment.rehomeList owner phrase) :: Argument.rehomeList owner rest

end

/-- A phrase with its anchored paths moved. -/
def Phrase.rehome (owner : String) (phrase : Phrase) : Phrase :=
  Fragment.rehomeList owner phrase

end FieldDelta.Syntax

namespace FieldDelta

open Syntax

/-! ## Rehoming -/

/-- A type path that cannot name anything in the crate. -/
structure UnresolvablePath where
  path : String
deriving DecidableEq, Repr

/-- The number of `super` segments at the beginning of a path; none behind a leading `::`. -/
def climbs : Path → Nat
  | .mk true _ => 0
  | .mk false segments => (segments.takeWhile (·.name == "super")).length

def compactText (path : Path) : String :=
  String.ofList (path.text.toList.filter (· != ' '))

/-- The type as it is written one module deeper, where `owner` is what `Self` names and `depth`
    the number of `super` steps that the declaring module allows.  The first path that climbs
    higher is reported. -/
def rehomeType (type : Phrase) (owner : String) (depth : Nat) :
    Except UnresolvablePath Phrase :=
  match type.paths.find? (fun path => depth < climbs path) with
  | some path => .error ⟨compactText path⟩
  | none => .ok (type.rehome owner)

/-! ## Spelling -/

/-- The substitutions that make the text of a type compact, in order. -/
def spellings : List (String × String) :=
  [(" :: ", "::"), (":: ", "::"), (" ::", "::"), (" < ", "<"), (" <", "<"), ("< ", "<"),
   (" >", ">"), (" ,", ","), ("& ", "&"), ("[ ", "["), (" ]", "]"), (" ;", ";"), ("( ", "("),
   (" )", ")"), ("->", " -> "), ("  ", " ")]

/-- The compact text of a type: its token text without the spaces around path separators, angle
    brackets and delimiters.  The substitutions are made in the text, wherever they apply. -/
def spellType (type : Phrase) : String :=
  let text := TokenTree.charsOfList type.tokens
  String.ofList (Text.trim
    (spellings.foldl (fun cs (pattern, compact) => Text.replaceAll pattern compact cs) text))

end FieldDelta
