import FieldDelta.Diagnostic
import FieldDelta.Identity
import FieldDelta.Marker
import FieldDelta.Scope

/-! # Candidates

A candidate is a type declaration that carries the tracking marker, found in a source file.  Its
declaration is kept as token text without documentation, so that editing white space, comments
or documentation yields an equal candidate.

* `Candidate` — a marked declaration and the imports visible to it;
* `Item.candidates` — the candidates of an item, those of inline modules included;
* `collect` — the candidates of a source file.
-/

namespace FieldDelta

open Syntax

namespace Candidate

/-- What kind of type a candidate declares. -/
inductive Kind where
  | struct
  | enum
  | union
deriving DecidableEq, Repr

def Kind.text : Kind → String
  | struct => "struct"
  | enum => "enum"
  | union => "union"

end Candidate

/-- A marked type declaration. -/
structure Candidate where
  identity : TypeIdentity
  kind : Candidate.Kind
  /-- The imports visible at the declaration. -/
  scope : Scope
  /-- The declaration without documentation, as token text. -/
  item : String
deriving DecidableEq, Repr

def Candidate.modulePath (candidate : Candidate) : String :=
  candidate.identity.modulePath

/-! ## Declarations without documentation -/

namespace Syntax

def Declaration.withoutDocs (decl : Declaration) : Declaration :=
  { decl with attributes := Attribute.withoutDocs decl.attributes }

def Field.withoutDocs (field : Field) : Field :=
  { field with attributes := Attribute.withoutDocs field.attributes }

def Fields.withoutDocs : Fields → Fields
  | .named fields => .named (fields.map Field.withoutDocs)
  | .tuple fields => .tuple (fields.map Field.withoutDocs)
  | .unit => .unit

/-- A type declaration without documentation.  The variants of an enum and the fields of a union
    keep theirs. -/
def Item.withoutDocs : Item → Item
  | .struct decl fields => .struct decl.withoutDocs fields.withoutDocs
  | .enum decl variants => .enum decl.withoutDocs variants
  | .union decl fields => .union decl.withoutDocs fields
  | item => item

/-- The token text of a type declaration without documentation. -/
def Item.normalText (item : Item) : String :=
  tokenText item.withoutDocs.tokens

/-- Whether an attribute is `#[cfg(test)]`, with `test` standing alone. -/
def Attribute.isTestOnly (attr : Attribute) : Bool :=
  attr.isNamed "cfg" &&
    (match attr.input with
      | .arguments _ [.word name] => name == "test"
      | _ => false)

end Syntax

/-! ## Collection -/

namespace Candidate

def ofDeclaration (modulePath : String) (scope : Scope) (kind : Kind) (decl : Declaration)
    (item : Item) : List Candidate :=
  if decl.attributes.any Marker.isMarker then
    [{ identity := .declared modulePath (Naming.withoutRaw decl.name)
       kind := kind
       scope := scope
       item := item.normalText }]
  else []

mutual

/-- The candidates of an item of a module, in source order.  `scope` holds the imports of that
    module.  A module that is compiled for tests only is left out. -/
def ofItem (modulePath : String) (scope : Scope) : Item → List Candidate
  | .struct decl fields => ofDeclaration modulePath scope .struct decl (.struct decl fields)
  | .enum decl variants => ofDeclaration modulePath scope .enum decl (.enum decl variants)
  | .union decl fields => ofDeclaration modulePath scope .union decl (.union decl fields)
  | .submodule attributes name (some contents) =>
    if attributes.any Attribute.isTestOnly then []
    else
      let modulePath := modulePath ++ "::" ++ Naming.withoutRaw name
      ofItems modulePath (.ofItems modulePath contents) contents
  | _ => []

def ofItems (modulePath : String) (scope : Scope) : List Item → List Candidate
  | [] => []
  | item :: rest => ofItem modulePath scope item ++ ofItems modulePath scope rest

end

end Candidate

/-- Everything collected from one source file. -/
structure Collected where
  /-- The candidates in source order. -/
  candidates : List Candidate := []
  diagnostics : List Diagnostic := []
deriving DecidableEq, Repr

def Diagnostic.unreadableFile (label : String) : Diagnostic where
  code := .unreadable
  severity := .error
  message := "failed to parse source: syntax error"
  subject := some label
  notes := ["no delta types are generated from this file"]

/-- The candidates of a file whose items live in `modulePath`.  `label` names the file in
    diagnostics. -/
def collect (modulePath label text : String) : Collected :=
  match parseFile? text with
  | some items => { candidates := Candidate.ofItems modulePath (.ofItems modulePath items) items }
  | none => { diagnostics := [.unreadableFile label] }

end FieldDelta
