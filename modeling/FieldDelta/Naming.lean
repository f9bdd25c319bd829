import FieldDelta.Text.Segments
import FieldDelta.Unicode.Lowercase

/-! # Naming rules for generated members and files

A property's member name serves its slot and its accessor.  It is the field's identifier with
the first character in lower case and nothing else changed: `Name` becomes `name`, `ALLCAPS`
becomes `aLLCAPS`.  Two more rules keep the result usable:

* a keyword becomes a raw identifier, or takes a trailing underscore where it has no raw form;
* the index of a tuple field takes a leading underscore.

The module also says which members are reserved and how a module path becomes a file key.
-/

namespace FieldDelta.Naming

/-! ## Keywords -/

/-- The strict and reserved keywords of Rust. -/
def keywords : List String :=
  ["abstract", "as", "async", "await", "become", "box", "break", "const", "continue", "crate",
   "do", "dyn", "else", "enum", "extern", "false", "final", "fn", "for", "if", "impl", "in",
   "let", "loop", "macro", "match", "mod", "move", "mut", "override", "priv", "pub", "ref",
   "return", "self", "Self", "static", "struct", "super", "trait", "true", "try", "type",
   "typeof", "unsafe", "unsized", "use", "virtual", "where", "while", "yield"]

def pathKeywords : List String :=
  ["crate", "self", "Self", "super"]

/-- Whether `name` is a keyword, strict or reserved. -/
def isKeyword (name : String) : Bool :=
  keywords.contains name

/-! ## Raw identifiers -/

/-- What follows the mark `r#` of a raw identifier. -/
def rawName? : List Char → Option (List Char)
  | 'r' :: '#' :: name => some name
  | _ => none

/-- An identifier without the mark `r#`. -/
def withoutRaw (identifier : String) : String :=
  match rawName? identifier.toList with
  | some name => String.ofList name
  | none => identifier

/-! ## Members -/

/-- Puts the first character into lower case and leaves the rest untouched. -/
def lowerFirst (raw : String) : String :=
  match raw.toList with
  | [] => ""
  | first :: rest => String.ofList (Unicode.toLowercase first ++ rest)

/-- An identifier that can be written for `name`. -/
def usableIdentifier (name : String) : String :=
  if pathKeywords.contains name then name ++ "_"
  else if isKeyword name then "r#" ++ name
  else name

/-- The slot and accessor identifier for a field.  `raw` is the field's identifier as written,
    or the decimal index of a tuple field. -/
def memberName (raw : String) : String :=
  match rawName? raw.toList with
  | some name => usableIdentifier (lowerFirst (String.ofList name))
  | none =>
    match raw.toList with
    | [] => usableIdentifier (lowerFirst raw)
    | first :: _ =>
      if first.isDigit then "_" ++ raw else usableIdentifier (lowerFirst raw)

/-- Members that every delta type defines. -/
def reservedMembers : List String :=
  ["new", "previous", "current", "has_any_deltas", "all_deltas", "root_deltas", "deltas",
   "has_delta_in"]

/-- The member to use in place of a reserved one: `current` gives `current_`. -/
def unreservedMember (member : String) : Option String :=
  let bare := withoutRaw member
  if reservedMembers.contains bare then some (bare ++ "_") else none

/-- The segment that a property contributes to change paths: its name without `r#`. -/
def pathSegment (raw : String) : String :=
  withoutRaw raw

/-! ## Modules -/

/-- The key of a module's file: `crate::models::user` gives `models__user`, and the crate root
    gives `crate`. -/
def moduleKey (modulePath : String) : String :=
  match (Text.segments modulePath).filter (fun s => s != "" && s != "crate") with
  | [] => "crate"
  | names => "__".intercalate names

/-- The number of `super` steps that a module allows. -/
def moduleDepth (modulePath : String) : Nat :=
  (Text.segments modulePath).length - 1

def manifestFileName (modulePath : String) : String :=
  moduleKey modulePath ++ ".deltas.rs"

/-- The file name of the unit that holds the delta type `generatedName`. -/
def deltaUnitFileName (generatedName : String) : String :=
  generatedName ++ ".g.rs"

end FieldDelta.Naming
