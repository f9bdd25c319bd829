import FieldDelta.Syntax.Grammar.Expression

/-! # Declarations of structs, enums and unions

`Grammar.typeDeclaration` reads what follows the attributes of such a declaration, from its
visibility on.
-/

namespace FieldDelta.Syntax.Grammar

open Reader

/-! ## Fields -/

/-- Whether the fields of a type without a name come next. -/
def namelessTypeAhead (trees : List TokenTree) : Bool :=
  Ahead.word "struct" trees || (Ahead.word "union" trees && Ahead.group .brace (trees.drop 1))

/-- A field in braces.  Its name may be an underscore; then its type may be a struct or union
    without a name, which stays raw and whose fields `nested` reads. -/
def namedField (rules : Rules) (nested : Reader Unit) : Reader Field := do
  let attributes ← outerAttributes rules
  let visibility ← visibility
  let name ← wordWith fun text => text == "_" || !Ahead.isReserved text
  op ":"
  let type ← phraseOf do
    if name == "_" && (← ahead namelessTypeAhead) then
      raw do
        let _ ← anyIdent
        nested
    else rules.type true
  emit type
  return { attributes := attributes, visibility := visibility, name := some name, type := type }

def tupleField (rules : Rules) : Reader Field := do
  let attributes ← outerAttributes rules
  let visibility ← visibility
  let type ← phraseOf (rules.type true)
  emit type
  return { attributes := attributes, visibility := visibility, name := none, type := type }

/-- Fields in braces, which nest at most `depth` deep. -/
def namedFieldsWithin (rules : Rules) : Nat → Reader (List Field)
  | 0 => failure
  | depth + 1 => do
    let nested : Reader Unit := do
      let _ ← namedFieldsWithin rules depth
    return (← group .brace (commaList (namedField rules nested))).1

def namedFields (rules : Rules) : Reader (List Field) := do
  namedFieldsWithin rules (TokenTree.sizeOfList ((← upcoming).take 1) + 1)

def tupleFields (rules : Rules) : Reader (List Field) := do
  return (← group .paren (commaList (tupleField rules))).1

/-! ## Declarations -/

/-- The fields of a struct with the conditions in front of or behind them. -/
def structBody (rules : Rules) : Reader (Phrase × Fields) := do
  let conditioned ← ahead (Ahead.word "where")
  let before ← conditions rules
  if !conditioned && (← ahead (Ahead.group .paren)) then
    let fields ← tupleFields rules
    let behind ← conditions rules
    op ";"
    return (behind, .tuple fields)
  else if ← ahead (Ahead.group .brace) then
    return (before, .named (← namedFields rules))
  else
    op ";"
    return (before, .unit)

/-- A variant of an enum.  A visibility in front of it is read and dropped. -/
def variant (rules : Rules) : Reader Phrase := do
  let phrase ← phraseOf do
    let _ ← outerAttributes rules
    let _ ← captured visibility
    let _ ← ident
    if ← ahead (Ahead.group .brace) then
      let _ ← namedFields rules
    else if ← ahead (Ahead.group .paren) then
      let _ ← tupleFields rules
    if ← op? "=" then rules.value
  emit phrase
  return phrase

/-- The kinds of type declarations. -/
inductive DeclarationKind where
  | struct
  | enum
  | union
deriving DecidableEq, Repr

/-- The kind of type declaration that comes next, behind its visibility. -/
def declarationAhead (trees : List TokenTree) : Option DeclarationKind :=
  if Ahead.word "struct" trees then some .struct
  else if Ahead.word "enum" trees then some .enum
  else if Ahead.word "union" trees && Ahead.ident (trees.drop 1) then some .union
  else none

def typeDeclaration (rules : Rules) (attributes : List Attribute) (visibility : Visibility) :
    Reader Item := do
  match declarationAhead (← upcoming) with
  | none => failure
  | some kind =>
    let _ ← anyIdent
    let name ← ident
    let parameters ← parameters rules
    let decl (conditions : Phrase) : Declaration :=
      { attributes := attributes, visibility := visibility, name := name,
        parameters := parameters, conditions := conditions }
    match kind with
    | .struct =>
      let (conditions, fields) ← structBody rules
      return .struct (decl conditions) fields
    | .enum =>
      let conditions ← conditions rules
      let (variants, _) ← group .brace (commaList (variant rules))
      return .enum (decl conditions) variants
    | .union =>
      let conditions ← conditions rules
      let fields ← phraseOf do
        let _ ← namedFields rules
      emit fields
      return .union (decl conditions) fields

end FieldDelta.Syntax.Grammar
