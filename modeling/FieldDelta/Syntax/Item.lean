import FieldDelta.Syntax.Phrase

/-! # Items

The items of a source file, as far as the library looks into them: type declarations, modules
and imports.  Every other item is `Item.other`.

* `Attribute`, `Visibility`, `Field` — the parts of declarations;
* `UseTree` — what an import brings in;
* `Item` — an item;
* `Item.tokens` — the tokens that spell a type declaration.
-/

namespace FieldDelta.Syntax

/-! ## Attributes -/

/-- What follows the path of an attribute. -/
inductive AttributeInput where
  | none
  /-- Raw tokens between delimiters. -/
  | arguments (delimiter : Delimiter) (tokens : List TokenTree)
  /-- A value behind `=`. -/
  | value (phrase : Phrase)

/-- An attribute `#[path …]`, or `#![path …]` if it is an inner one. -/
structure Attribute where
  inner : Bool
  path : Path
  input : AttributeInput

namespace Attribute

/-- Whether the attribute's path is the single identifier `name`. -/
def isNamed (attr : Attribute) (name : String) : Bool :=
  attr.path.isIdent name

def inputTokens : AttributeInput → List TokenTree
  | .none => []
  | .arguments delimiter tokens => [.group delimiter tokens]
  | .value phrase => .punct '=' false :: phrase.tokens

def tokens (attr : Attribute) : List TokenTree :=
  [.punct '#' false] ++ (if attr.inner then [.punct '!' false] else [])
    ++ [.group .bracket (attr.path.tokens ++ inputTokens attr.input)]

def withoutDocs (attributes : List Attribute) : List Attribute :=
  attributes.filter (!·.isNamed "doc")

end Attribute

/-! ## Visibility -/

/-- How far a declaration or field is visible. -/
inductive Visibility where
  | inherited
  | pub
  /-- `pub(path)`, or `pub(in path)`. -/
  | restricted (inPath : Bool) (path : Path)

def Visibility.isInherited : Visibility → Bool
  | inherited => true
  | _ => false

def Visibility.tokens : Visibility → List TokenTree
  | inherited => []
  | pub => [.word "pub"]
  | restricted inPath path =>
    [.word "pub", .group .paren ((if inPath then [.word "in"] else []) ++ path.tokens)]

/-! ## Type declarations -/

/-- A field of a struct.  The fields of a tuple have no names. -/
structure Field where
  attributes : List Attribute
  visibility : Visibility
  name : Option String
  type : Phrase

def Field.tokens (field : Field) : List TokenTree :=
  field.attributes.flatMap Attribute.tokens ++ field.visibility.tokens
    ++ (match field.name with
        | some name => [.word name, .punct ':' false]
        | none => [])
    ++ field.type.tokens

/-- The fields of a struct. -/
inductive Fields where
  | named (fields : List Field)
  | tuple (fields : List Field)
  | unit

/-- All fields, in declaration order. -/
def Fields.toList : Fields → List Field
  | named fields => fields
  | tuple fields => fields
  | unit => []

/-- What the declarations of structs, enums and unions have in common. -/
structure Declaration where
  attributes : List Attribute
  visibility : Visibility
  name : String
  /-- The list of parameters, or nothing. -/
  parameters : Phrase
  /-- The `where` clause, or nothing. -/
  conditions : Phrase

namespace Declaration

/-- The tokens in front of the fields or variants. -/
def headTokens (decl : Declaration) (keyword : String) : List TokenTree :=
  (decl.attributes.filter (!·.inner)).flatMap Attribute.tokens ++ decl.visibility.tokens
    ++ [.word keyword, .word decl.name] ++ decl.parameters.tokens

end Declaration

/-! ## Imports -/

/-- What a `use` item brings in, behind the segments read so far. -/
inductive UseTree where
  | path (name : String) (tree : UseTree)
  | name (name : String)
  | rename (name : String) (newName : String)
  | glob
  | group (trees : List UseTree)

/-! ## Items -/

/-- An item of a source file. -/
inductive Item where
  | struct (decl : Declaration) (fields : Fields)
  | enum (decl : Declaration) (variants : List Phrase)
  | union (decl : Declaration) (fields : Phrase)
  /-- A module.  It has no contents when they are in a file of their own. -/
  | submodule (attributes : List Attribute) (name : String) (contents : Option (List Item))
  | use (leading : Bool) (tree : UseTree)
  | other

/-- Puts a comma between sequences of tokens. -/
def separatedByCommas : List (List TokenTree) → List TokenTree
  | [] => []
  | [tokens] => tokens
  | tokens :: rest => tokens ++ comma :: separatedByCommas rest

namespace Item

/-- The tokens that spell a type declaration.  Field and variant lists have no comma after their
    last element. -/
def tokens : Item → List TokenTree
  | struct decl (.named fields) =>
    decl.headTokens "struct" ++ decl.conditions.tokens
      ++ [.group .brace (separatedByCommas (fields.map Field.tokens))]
  | struct decl (.tuple fields) =>
    decl.headTokens "struct" ++ [.group .paren (separatedByCommas (fields.map Field.tokens))]
      ++ decl.conditions.tokens ++ [.punct ';' false]
  | struct decl .unit =>
    decl.headTokens "struct" ++ decl.conditions.tokens ++ [.punct ';' false]
  | enum decl variants =>
    decl.headTokens "enum" ++ decl.conditions.tokens
      ++ [.group .brace (separatedByCommas (variants.map Phrase.tokens))]
  | union decl fields =>
    decl.headTokens "union" ++ decl.conditions.tokens ++ fields.tokens
  | _ => []

end Item
end FieldDelta.Syntax
