import FieldDelta.Syntax.Grammar.Function

/-! # Values, aliases, macros and blocks of members

The items that are only recognised besides functions: constants and static variables, type
aliases, macros, and the traits, implementations and foreign blocks that have items of these
kinds as members.

Items that the grammar admits but that mean nothing, such as a constant without a value, stay
raw.  The readers answer whether theirs is one of them.
-/

namespace FieldDelta.Syntax.Grammar

open Reader

/-! ## Values and types -/

/-- What was read of a constant. -/
structure ConstantForm where
  /-- It has parameters or conditions. -/
  generic : Bool
  hasValue : Bool

def constantItem (rules : Rules) : Reader ConstantForm := do
  word "const"
  let _ ← wordWith fun text => text == "_" || !Ahead.isReserved text
  let parameterized ← ahead (Ahead.op "<")
  let _ ← parameters rules
  op ":"
  rules.type true
  let hasValue ← op? "="
  if hasValue then rules.value
  let conditional ← ahead (Ahead.word "where")
  let _ ← conditions rules
  op ";"
  return ⟨parameterized || conditional, hasValue⟩

/-- A static variable.  It stays raw if its type or its value is missing. -/
def staticItem (rules : Rules) : Reader Bool := do
  word "static"
  let _ ← word? "mut"
  let _ ← ident
  let typed := !(← ahead (Ahead.op "="))
  if typed then
    op ":"
    rules.type true
  let hasValue ← op? "="
  if hasValue then rules.value
  op ";"
  return !typed || !hasValue

/-- Where the conditions of a type alias may stand. -/
structure AliasForm where
  /-- In front of the type. -/
  before : Bool
  /-- Behind the type, if none stand in front of it. -/
  behind : Bool
deriving DecidableEq, Repr

/-- What was read of a type alias. -/
structure AliasParts where
  hasBounds : Bool
  hasType : Bool

def aliasBoundEnd (trees : List TokenTree) : Bool :=
  Ahead.word "where" trees || Ahead.op "=" trees || Ahead.op ";" trees

def typeItem (rules : Rules) (form : AliasForm) : Reader AliasParts := do
  word "type"
  let _ ← ident
  let _ ← parameters rules
  let hasBounds ← ahead (Ahead.op ":")
  if hasBounds then afterColon (listOf "+" aliasBoundEnd (rules.bound { constant := true }))
  let conditional ← ahead (Ahead.word "where")
  if form.before then
    let _ ← conditions rules
  let hasType ← op? "="
  if hasType then rules.type true
  if form.behind && !(form.before && conditional) then
    let _ ← conditions rules
  op ";"
  return ⟨hasBounds, hasType⟩

/-! ## Macros -/

/-- Whether a macro call may begin here, where an item may stand. -/
def macroPathAhead (trees : List TokenTree) : Bool :=
  Ahead.ident trees || Ahead.word "self" trees || Ahead.word "super" trees
    || Ahead.word "crate" trees || Ahead.op "::" trees

/-- The group of a macro call, and the semicolon that one without braces needs. -/
def macroGroup : Reader Unit := do
  let (delimiter, _) ← rawGroup
  if delimiter != .brace then op ";"

/-- A macro call among the members of a trait or the like. -/
def memberMacro : Reader Unit := do
  if !(← ahead macroPathAhead) then failure
  let _ ← plainPath
  op "!"
  macroGroup

/-- A macro call as an item; it may define a name. -/
def macroItem : Reader Unit := do
  if !(← ahead macroPathAhead) then failure
  let _ ← plainPath
  op "!"
  if ← ahead (fun trees => Ahead.ident trees || Ahead.word "try" trees) then
    let _ ← anyIdent
  macroGroup

/-- A macro definition by `macro`. -/
def macroDefinition : Reader Unit := do
  word "macro"
  let _ ← ident
  if ← ahead (Ahead.group .paren) then
    let _ ← rawGroup
  if !(← ahead (Ahead.group .brace)) then failure
  let _ ← rawGroup

/-! ## Members -/

def traitMember (rules : Rules) : Reader Bool := do
  let inherited := (← inTurn .visibility visibility).isInherited
  let isDefault ← word? "default"
  let trees ← upcoming
  let generic ←
    if functionAhead false trees then
      let _ ← functionItem rules
      pure false
    else if Ahead.word "const" trees then pure (← constantItem rules).generic
    else if Ahead.word "type" trees then
      let _ ← typeItem rules ⟨false, true⟩
      pure false
    else if inherited && !isDefault then
      memberMacro
      pure false
    else failure
  return generic || isDefault || !inherited

def implementationMember (rules : Rules) : Reader Bool := do
  let inherited := (← inTurn .visibility visibility).isInherited
  let isDefault ←
    if ← ahead fun trees => Ahead.op "!" (trees.drop 1) then pure false else word? "default"
  let trees ← upcoming
  if functionAhead false trees then functionItem rules
  else if Ahead.word "const" trees then
    let found ← constantItem rules
    return found.generic || !found.hasValue
  else if Ahead.word "type" trees then
    let found ← typeItem rules ⟨false, true⟩
    return found.hasBounds || !found.hasType
  else if inherited && !isDefault then
    memberMacro
    return false
  else failure

/-- Whether a static variable of a foreign block begins here. -/
def foreignStaticAhead (trees : List TokenTree) : Bool :=
  Ahead.word "static" trees
    || ((Ahead.word "unsafe" trees || Ahead.word "safe" trees)
        && Ahead.word "static" (trees.drop 1))

def foreignStatic (rules : Rules) : Reader Bool := do
  let restricted ← word? "unsafe"
  let qualified ← if restricted then pure true else word? "safe"
  word "static"
  let _ ← word? "mut"
  let _ ← ident
  op ":"
  rules.type true
  let hasValue ← op? "="
  if hasValue then rules.value
  op ";"
  return qualified || hasValue

def foreignFunction (rules : Rules) : Reader Bool := do
  let qualified ← signature rules true
  let hasBody ← ahead (Ahead.group .brace)
  if hasBody then rules.block true else op ";"
  return qualified || hasBody

/-- A member of a foreign block, behind its attributes. -/
def foreignMember (rules : Rules) : Reader Bool := do
  let inherited := (← inTurn .visibility visibility).isInherited
  let trees ← upcoming
  if functionAhead true trees then foreignFunction rules
  else if foreignStaticAhead trees then foreignStatic rules
  else if Ahead.word "type" trees then
    let found ← typeItem rules ⟨true, true⟩
    return found.hasBounds || found.hasType
  else if inherited then
    memberMacro
    return false
  else failure

/-- The members in braces, perhaps behind inner attributes. -/
def members (rules : Rules) (member : Reader Bool) : Reader Unit :=
  group .brace do
    let _ ← innerAttributes rules
    repeatedly do
      if ← atEnd then return false
      rawIf do
        let _ ← outerAttributes rules
        construct member
      return true

/-! ## Traits, implementations and foreign blocks -/

def traitBoundEnd (trees : List TokenTree) : Bool :=
  Ahead.word "where" trees || Ahead.group .brace trees

def traitAliasEnd (trees : List TokenTree) : Bool :=
  Ahead.word "where" trees || Ahead.op ";" trees

def traitItem (rules : Rules) : Reader Unit := do
  let restricted ← word? "unsafe"
  let isAuto ← word? "auto"
  word "trait"
  let _ ← ident
  let _ ← parameters rules
  if !restricted && !isAuto && (← ahead (Ahead.op "=")) then
    op "="
    let _ ← listOf "+" traitAliasEnd (rules.bound {})
    let _ ← conditions rules
    op ";"
  else
    if ← ahead (Ahead.op ":") then
      afterColon (listOf "+" traitBoundEnd (rules.bound { constant := true }))
    let _ ← conditions rules
    members rules (traitMember rules)

/-- Reads `const` or `?const` in front of the trait of an implementation, and tells whether it
    was there. -/
def constantMark? : Reader Bool := do
  if ← word? "const" then return true
  if ← ahead (fun trees => Ahead.op "?" trees && Ahead.word "const" (trees.drop 1)) then
    op "?"
    word? "const"
  else return false

/-- An implementation, of a trait or of a type alone; `inherited` says that no visibility stands
    in front of it.  One for a constant trait, or of something that is no trait, stays raw. -/
def implItem (rules : Rules) (inherited : Bool) : Reader Bool := do
  let _ ← word? "default"
  let _ ← word? "unsafe"
  word "impl"
  if ← ahead parametersAhead then
    let _ ← parameters rules
  let constant ← constantMark?
  let negative ←
    if ← ahead fun trees => Ahead.op "!" trees && !Ahead.group .brace (trees.drop 1) then op? "!"
    else pure false
  let first ← rules.typeForm true
  let ofTrait ← word? "for"
  if ofTrait then rules.type true
  else if negative then failure
  let _ ← conditions rules
  members rules (implementationMember rules)
  return !inherited || constant || (ofTrait && first != .path)

def foreignBlock (rules : Rules) : Reader Unit := do
  let _ ← word? "unsafe"
  if !(← linkage?) then failure
  members rules (foreignMember rules)

def externCrate : Reader Unit := do
  word "extern"
  word "crate"
  let _ ← wordWith fun text => text == "self" || !Ahead.isReserved text
  if ← word? "as" then
    let _ ← wordWith fun text => text == "_" || !Ahead.isReserved text
  op ";"

end FieldDelta.Syntax.Grammar
