import FieldDelta.Syntax.Grammar.FieldName
import FieldDelta.Syntax.Grammar.Type

/-! # Patterns

`Grammar.pattern` reads a pattern and answers its form; alternatives joined by `|`, perhaps with
one in front, are read only where `alternatives` is set.
-/

namespace FieldDelta.Syntax.Grammar

open Reader

/-! ## Ranges -/

def rangeEndMissing (trees : List TokenTree) : Bool :=
  trees.isEmpty || Ahead.op "|" trees || Ahead.op "=" trees || colonAhead trees
    || Ahead.op "," trees || Ahead.op ";" trees || Ahead.word "if" trees

def constantBlock (rules : Rules) : Reader Unit :=
  construct do
    word "const"
    rules.block true

/-- An end of a range: a literal, a path or a constant block.  Answers whether there is one. -/
def rangeEnd? (rules : Rules) : Reader Bool := do
  let trees ← upcoming
  if rangeEndMissing trees then return false
  if Ahead.literal trees then literal
  else if isPathStart trees || Ahead.op "::" trees || Ahead.op "<" trees then
    let _ ← qualifiedPath rules .expression
  else constantBlock rules
  return true

/-- The dots of a range, of which three mean the same as two with an equals sign.  Answers
    whether the end belongs to the range, so that there must be one. -/
def rangeDots : Reader Bool := do
  let trees ← upcoming
  if Ahead.op "..." trees then
    advance (trees.drop 3) ((operatorTokens "..=".toList).map .token)
    return true
  else if ← op? "..=" then return true
  else op ".."; return false

def rangeRest (rules : Rules) : Reader PatternForm := do
  let closed ← rangeDots
  let ended ← rangeEnd? rules
  if closed && !ended then failure
  return if ended then .range else .openRange

/-- A range without a beginning.  Without an end as well it stands for any number of elements. -/
def rangeToEnd (rules : Rules) : Reader PatternForm := do
  return if (← rangeRest rules) = .range then .openRange else .other

/-! ## Structs and slices -/

/-- One field of a struct pattern, behind its attributes. -/
def fieldPattern (rules : Rules) : Reader Unit := do
  let boxed ← word? "box"
  let byReference ← word? "ref"
  let mutable ← word? "mut"
  if boxed || byReference || mutable then
    let _ ← ident
  else
    let named ← fieldName
    if !named || (← ahead (Ahead.op ":")) then
      op ":"
      rules.pattern true

/-- The fields of a struct pattern, at most `limit`.  Only the last one can be `..`, and no comma
    follows that. -/
def fieldPatterns (rules : Rules) : Nat → Reader Unit
  | 0 => failure
  | limit + 1 => do
    if ← atEnd then return
    let _ ← outerAttributes rules
    if ← op? ".." then return
    fieldPattern rules
    if ← op? "," then fieldPatterns rules limit

/-- An element of a slice pattern, which cannot be a range without one of its ends. -/
def elementPattern (rules : Rules) : Reader Unit := do
  if (← rules.patternForm true) = .openRange then failure

/-! ## Patterns that begin with a name -/

/-- Whether a pattern that begins with an identifier is a path, a macro call, a struct or a
    range, and not a binding. -/
def compoundNameAhead (trees : List TokenTree) : Bool :=
  let next := trees.drop 1
  (Ahead.ident trees && (Ahead.op "::" next || Ahead.op "!" next || Ahead.group .brace next
      || Ahead.group .paren next || Ahead.op ".." next))
    || (Ahead.word "self" trees && Ahead.op "::" next)
    || Ahead.op "::" trees || Ahead.op "<" trees || Ahead.word "Self" trees
    || Ahead.word "super" trees || Ahead.word "crate" trees

def pathPattern (rules : Rules) : Reader PatternForm := do
  let found ← qualifiedPath rules .expression
  let trees ← upcoming
  if (found.map Path.isPlain).getD false && bangAhead trees then
    op "!"
    let _ ← rawGroup
    return .other
  else if Ahead.group .brace trees then
    group .brace do fieldPatterns rules ((← upcoming).length + 1)
    return .other
  else if Ahead.group .paren trees then
    let _ ← group .paren (commaList (rules.pattern true))
    return .other
  else if Ahead.op ".." trees then rangeRest rules
  else return .other

/-- A binding, perhaps with a pattern behind `@`. -/
def bindingPattern (rules : Rules) : Reader Unit := do
  let _ ← word? "ref"
  let _ ← word? "mut"
  if ← ahead (Ahead.word "self") then word "self"
  else
    let _ ← ident
  if ← op? "@" then rules.pattern false

/-! ## Patterns -/

/-- A literal or a constant block, or a range that begins with one. -/
def literalPattern (rules : Rules) : Reader PatternForm := do
  let _ ← rangeEnd? rules
  if ← ahead (Ahead.op "..") then rangeRest rules else return .other

/-- A pattern that holds other patterns, or none at all. -/
def simplePattern (rules : Rules) : Reader Unit := do
  let trees ← upcoming
  if Ahead.word "_" trees then word "_"
  else if Ahead.word "ref" trees || Ahead.word "mut" trees || Ahead.word "self" trees
      || Ahead.ident trees then
    bindingPattern rules
  else if Ahead.op "&" trees then
    op "&"
    let _ ← word? "mut"
    rules.pattern false
  else if Ahead.group .paren trees then
    let _ ← group .paren (commaList (rules.pattern true))
  else if Ahead.group .bracket trees then
    let _ ← group .bracket (commaList (elementPattern rules))
  else failure

def singlePattern (rules : Rules) : Reader PatternForm := do
  let trees ← upcoming
  if compoundNameAhead trees then pathPattern rules
  else if Ahead.word "box" trees then
    raw do
      word "box"
      rules.pattern false
    return .raw
  else if Ahead.literal trees || Ahead.word "const" trees then literalPattern rules
  else if Ahead.op ".." trees && !Ahead.op "..." trees then rangeToEnd rules
  else
    simplePattern rules
    return .other

/-- Whether a `|` between alternatives comes next. -/
def barAhead (trees : List TokenTree) : Bool :=
  Ahead.op "|" trees && !Ahead.op "||" trees && !Ahead.op "|=" trees

def pattern (rules : Rules) (alternatives : Bool) : Reader PatternForm := do
  if alternatives then
    let leading ← op? "|"
    let first ← singlePattern rules
    let more ← ahead barAhead
    repeatedly do
      if ← ahead barAhead then
        op "|"
        let _ ← singlePattern rules
        return true
      else return false
    return if leading || more then .other else first
  else singlePattern rules

end FieldDelta.Syntax.Grammar
