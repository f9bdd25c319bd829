import FieldDelta.Syntax.Grammar.Bound

/-! # Types

`Grammar.type` reads a type and answers its form.  Where `plus` is not set, a type does not go on
behind a `+`: in `&A + B` the reference is to `A` alone.
-/

namespace FieldDelta.Syntax.Grammar

open Reader

/-! ## Parentheses -/

/-- Bounds behind the `+` that follows a parenthesized bound.  Answers whether there are any. -/
def moreBounds (rules : Rules) : Nat → Reader Bool
  | 0 => failure
  | limit + 1 => do
    if ← op? "+" then
      let _ ← rules.bound {}
      let _ ← moreBounds rules limit
      return true
    else return false

/-- What stands between the parentheses of a unit type, a parenthesized type or a tuple.  Answers
    the form of a parenthesized type. -/
def tupleContents (rules : Rules) : Reader TypeForm := do
  if ← atEnd then return .other
  if ← ahead Ahead.lifetime then
    objectBounds rules {} true
    return .other
  let first ← rules.typeForm true
  if ← op? "," then
    let _ ← commaList (rules.type true)
    return .other
  else return first

/-- A phrase with one pair of parentheses where there are two, one directly inside the other. -/
def withoutInnerParentheses : Phrase → Phrase
  | [.group .paren [.group .paren inner]] => [.group .paren inner]
  | phrase => phrase

/-- A type that begins with a parenthesis.  Parentheses around the first of several bounds take
    the place of those inside them. -/
def parenthesizedType (rules : Rules) (plus : Bool) : Reader TypeForm := do
  match ← upcoming with
  | .group .paren inner :: _ =>
    if Ahead.op "?" inner then
      let _ ← group .paren (traitBound rules {})
      return if ← moreBounds rules ((← upcoming).length + 1) then .other else .bound
    else
      let (contents, phrase) ← captured (group .paren (tupleContents rules))
      if plus && contents != .other && (← ahead (Ahead.op "+")) then
        emit (withoutInnerParentheses phrase)
        let _ ← moreBounds rules ((← upcoming).length + 1)
      else emit phrase
      return .other
  | _ => failure

/-! ## Function pointers -/

/-- The linkage of a function: `extern`, perhaps with a string. -/
def linkage? : Reader Bool := do
  if ← word? "extern" then
    if ← ahead Ahead.string then literal
    return true
  else return false

/-- Whether a colon comes next, and not `::`. -/
def colonAhead (trees : List TokenTree) : Bool :=
  Ahead.op ":" trees && !Ahead.op "::" trees

/-- Whether a name or an underscore comes next. -/
def nameAhead (trees : List TokenTree) : Bool :=
  Ahead.ident trees || Ahead.word "_" trees

/-- Whether `mut self` comes next. -/
def mutableSelfAhead (trees : List TokenTree) : Bool :=
  Ahead.word "mut" trees && Ahead.word "self" (trees.drop 1)

/-- A parameter of a function pointer, perhaps with a name; only the `first` one may be called
    `self`.  Answers whether it is about `mut self`, which stays raw. -/
def pointerParameter (rules : Rules) (first : Bool) : Reader Bool := do
  let mutable ← if first && (← ahead mutableSelfAhead) then word? "mut" else pure false
  let trees ← upcoming
  let named := (nameAhead trees || (first && Ahead.word "self" trees)) && colonAhead (trees.drop 1)
  if named then
    let _ ← anyIdent
    op ":"
  if first && !(named && Ahead.word "self" trees) && (← ahead mutableSelfAhead) then
    word "mut"
    word "self"
    return true
  else if mutable && !named then
    word "self"
    return true
  else
    rules.type true
    return mutable

/-- Whether the dots for any further arguments come next, perhaps with a name. -/
def variadicAhead (trees : List TokenTree) : Bool :=
  Ahead.op "..." trees
    || (nameAhead trees && Ahead.op ":" (trees.drop 1) && Ahead.op "..." (trees.drop 2))

/-- The parameters of a function pointer, at most `limit`.  The dots for any further arguments
    can only be the last one. -/
def pointerParameters (rules : Rules) (first : Bool) : Nat → Reader Unit
  | 0 => failure
  | limit + 1 => do
    if ← atEnd then return
    let _ ← outerAttributes rules
    if ← ahead variadicAhead then
      if ← ahead nameAhead then
        let _ ← anyIdent
        op ":"
      op "..."
      let _ ← op? ","
    else
      rawIf (pointerParameter rules first)
      if ← op? "," then pointerParameters rules false limit

def functionPointer (rules : Rules) : Reader Unit := do
  let _ ← word? "unsafe"
  let _ ← linkage?
  word "fn"
  group .paren do pointerParameters rules true ((← upcoming).length + 1)
  resultType rules false

/-! ## Types that begin with a path -/

def isPathStart (trees : List TokenTree) : Bool :=
  Ahead.ident trees || Ahead.word "super" trees || Ahead.word "self" trees
    || Ahead.word "Self" trees || Ahead.word "crate" trees

/-- Further bounds behind a path that is a bound itself.  Answers whether there is a `+`. -/
def boundSum (rules : Rules) : Nat → Reader Bool
  | 0 => failure
  | limit + 1 => do
    if ← op? "+" then
      if ← ahead (boundAhead {}) then
        let _ ← rules.bound {}
        let _ ← boundSum rules limit
      return true
    else return false

/-- Whether a macro call's `!` comes next, and not `!=`. -/
def bangAhead (trees : List TokenTree) : Bool :=
  Ahead.op "!" trees && !Ahead.op "!=" trees

/-- A path type, a macro call, or a sum of bounds, behind a binder if there is one.  Behind a
    binder even a single path is a bound; a macro call loses its binder. -/
def pathType (rules : Rules) (plus : Bool) (binder : Phrase) : Reader TypeForm := do
  let (found, phrase) ← captured (qualifiedPath rules .type)
  match found with
  | none =>
    emit (binder ++ phrase)
    return .other
  | some path =>
    if path.isPlain && (← ahead bangAhead) then
      emit phrase
      op "!"
      let _ ← rawGroup
      return .other
    else
      emit (binder ++ phrase)
      let sum ← if plus then boundSum rules ((← upcoming).length + 1) else pure false
      return if sum then .other else if binder.isEmpty then .path else .bound

/-- Whether a form that the language keeps for itself begins here: `builtin # name(…)`. -/
def builtinAhead (trees : List TokenTree) : Bool :=
  Ahead.word "builtin" trees && Ahead.op "#" (trees.drop 1)

/-- A form that the language keeps for itself. -/
def builtin : Reader Unit := do
  word "builtin"
  op "#"
  let _ ← ident
  if !(← ahead (Ahead.group .paren)) then failure
  let _ ← rawGroup

/-! ## Types -/

def reference (rules : Rules) : Reader Unit := do
  op "&"
  if ← ahead Ahead.lifetime then lifetime
  let _ ← word? "mut"
  rules.type false

def rawPointer (rules : Rules) : Reader Unit := do
  op "*"
  let _ ← wordWith fun text => text == "const" || text == "mut"
  rules.type false

def sliceOrArray (rules : Rules) : Reader Unit :=
  group .bracket do
    rules.type true
    if ← op? ";" then rules.value

/-- An object type behind `dyn`.  With a star it stays raw. -/
def objectType (rules : Rules) (plus : Bool) : Reader Unit :=
  rawIf do
    word "dyn"
    let starred ← op? "*"
    objectBounds rules {} plus
    return starred

def functionPointerAhead (trees : List TokenTree) : Bool :=
  Ahead.word "fn" trees || Ahead.word "unsafe" trees || Ahead.word "extern" trees

def boundType (rules : Rules) (plus : Bool) : Reader TypeForm :=
  rawWhen do
    let binder ← phraseOf (binder rules)
    let trees ← upcoming
    if functionPointerAhead trees then
      emit binder
      functionPointer rules
      return (.other, false)
    else if builtinAhead trees then
      builtin
      return (.other, true)
    else if isPathStart trees then return (← pathType rules plus binder, false)
    else failure

/-- A type that is neither a path nor a sum of bounds. -/
def simpleType (rules : Rules) (plus : Bool) : Reader Unit := do
  let trees ← upcoming
  if functionPointerAhead trees then functionPointer rules
  else if builtinAhead trees then raw builtin
  else if Ahead.word "dyn" trees then objectType rules plus
  else if Ahead.group .bracket trees then sliceOrArray rules
  else if Ahead.op "*" trees then rawPointer rules
  else if Ahead.op "&" trees then reference rules
  else if Ahead.op "!" trees then op "!"
  else if Ahead.word "impl" trees then
    word "impl"
    objectBounds rules { captures := true, constant := true } plus
  else if Ahead.word "_" trees then word "_"
  else if Ahead.lifetime trees then objectBounds rules {} true
  else failure

def type (rules : Rules) (plus : Bool) : Reader TypeForm := do
  let trees ← upcoming
  if Ahead.word "for" trees then boundType rules plus
  else if Ahead.group .paren trees then parenthesizedType rules plus
  else if !builtinAhead trees &&
      (isPathStart trees || Ahead.op "::" trees || Ahead.op "<" trees) then
    pathType rules plus []
  else
    simpleType rules plus
    return .other

end FieldDelta.Syntax.Grammar
