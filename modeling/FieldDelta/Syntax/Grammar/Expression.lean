import FieldDelta.Syntax.Grammar.Operator
import FieldDelta.Syntax.Grammar.Pattern
import FieldDelta.Syntax.Grammar.Statement

/-! # Expressions

* `Grammar.atom` — an expression to which nothing is attached;
* `Grammar.operand` — prefix operators, an atom, and the members and calls behind it;
* `Grammar.expression` — operands with operators between them, or an expression that ends with a
  block at the beginning of a statement.

A flag `structs` says whether a brace behind a path begins the fields of a struct; it does not in
front of the block of an `if`.
-/

namespace FieldDelta.Syntax.Grammar

open Reader

def conditionExpression (rules : Rules) : Reader Unit := do
  let _ ← rules.expression .condition

/-! ## Paths, tuples and arrays -/

def structField (rules : Rules) : Reader Unit := do
  let _ ← outerAttributes rules
  let named ← fieldName
  if !named || (← ahead (Ahead.op ":")) then
    op ":"
    rules.value

/-- The fields of a struct expression, at most `limit`.  Behind `..` the rest comes from another
    value. -/
def structFields (rules : Rules) : Nat → Reader Unit
  | 0 => failure
  | limit + 1 => do
    if ← atEnd then return
    if ← op? ".." then
      if !(← atEnd) then rules.value
    else
      structField rules
      if ← op? "," then structFields rules limit

def pathExpression (rules : Rules) (structs : Bool) : Reader Shape := do
  let found ← qualifiedPath rules .expression
  let trees ← upcoming
  if (found.map Path.isPlain).getD false && bangAhead trees then
    op "!"
    let (delimiter, _) ← rawGroup
    return if delimiter == .brace then .bracedMacro else .other
  else
    if structs && Ahead.group .brace trees then
      group .brace do structFields rules ((← upcoming).length + 1)
    return .other

def parenthesizedExpression (rules : Rules) : Reader Unit := do
  let _ ← group .paren (commaList rules.value)

/-- An array with its elements, or with one element and a count. -/
def arrayExpression (rules : Rules) : Reader Unit :=
  group .bracket do
    if ← atEnd then return
    rules.value
    if ← op? ";" then rules.value
    else if ← op? "," then
      let _ ← commaList rules.value

/-! ## Closures -/

/-- The shape of an expression that is spelled like a pattern of the given form. -/
def patternShape : PatternForm → Shape
  | .range => .range
  | .openRange => .range
  | .raw => .raw
  | .other => .other

/-- A parameter of a closure.  Its attributes belong to the pattern if it has no type. -/
def closureParameter (rules : Rules) : Reader Unit := do
  let attributes ← phraseOf do
    let _ ← outerAttributes rules
  let (form, phrase) ← captured (rules.patternForm false)
  let typed ← ahead (Ahead.op ":")
  emit (if typed then attributes ++ phrase else attributed attributes (patternShape form) phrase)
  if ← op? ":" then rules.type true

def closure (rules : Rules) (structs : Bool) : Reader Unit := do
  let _ ← binder? rules
  let _ ← word? "const"
  let _ ← word? "static"
  let _ ← word? "async"
  let _ ← word? "move"
  op "|"
  let _ ← listOf "," (Ahead.op "|") (closureParameter rules)
  op "|"
  if ← op? "->" then
    rules.type true
    rules.block false
  else
    let _ ← rules.expression (if structs then .anywhere else .condition)

/-- Whether a loop over elements begins with `for` here, and not a binder. -/
def forLoopAhead (trees : List TokenTree) : Bool :=
  Ahead.word "for" trees && !parametersAhead (trees.drop 1)

def closureAhead (trees : List TokenTree) : Bool :=
  let next := trees.drop 1
  Ahead.op "|" trees || Ahead.word "move" trees
    || (Ahead.word "for" trees && parametersAhead next)
    || (Ahead.word "const" trees && !Ahead.group .brace next)
    || Ahead.word "static" trees
    || (Ahead.word "async" trees && (Ahead.op "|" next || Ahead.word "move" next))

/-! ## Expressions that end with a block -/

/-- One arm of a `match`.  Answers whether another may follow. -/
def matchArm (rules : Rules) : Reader Bool := do
  if ← atEnd then return false
  let _ ← outerAttributes rules
  rules.pattern true
  if ← word? "if" then rules.value
  op "=>"
  let shape ← rules.expression .statement
  if shape ≠ .block && !(← atEnd) then op ","
  else
    let _ ← op? ","
  return true

/-- The branches of an `if`, each `else if` counting against `limit`. -/
def ifExpression (rules : Rules) : Nat → Reader Unit
  | 0 => failure
  | limit + 1 => do
    word "if"
    conditionExpression rules
    rules.block false
    if ← word? "else" then
      if ← ahead (Ahead.word "if") then ifExpression rules limit
      else rules.block false

/-- A `match` with its arms. -/
def matchExpression (rules : Rules) : Reader Unit :=
  construct do
    word "match"
    conditionExpression rules
    group .brace do
      let _ ← innerAttributes rules
      repeatedly (matchArm rules)

/-- Whether a loop or a block in braces begins here, which may have a label. -/
def labeledAhead (trees : List TokenTree) : Bool :=
  ["while", "for", "loop"].any (Ahead.word · trees) || Ahead.group .brace trees

/-- A loop or a block, perhaps behind a word that says what kind of block it is. -/
def loopOrBlock (rules : Rules) : Reader Unit :=
  construct do
    if ← word? "while" then conditionExpression rules
    else if ← word? "for" then
      rules.pattern true
      word "in"
      conditionExpression rules
    else if ← ahead (fun trees => ["loop", "unsafe", "const"].any (Ahead.word · trees)) then
      let _ ← anyIdent
    rules.block true

/-- A loop or a block behind its label. -/
def labeledExpression (rules : Rules) : Reader Unit := do
  lifetime
  op ":"
  if !(← ahead labeledAhead) then failure
  loopOrBlock rules

/-- Whether an expression that ends with a block begins here; a label may stand in front. -/
def blockAhead (trees : List TokenTree) : Bool :=
  let next := trees.drop 1
  ["if", "while", "loop", "match", "unsafe"].any (Ahead.word · trees) || forLoopAhead trees
    || (Ahead.word "try" trees && Ahead.group .brace next)
    || (Ahead.word "const" trees && Ahead.group .brace next)
    || Ahead.group .brace trees || Ahead.lifetime trees

def blockExpression (rules : Rules) : Reader Unit := do
  let trees ← upcoming
  if Ahead.lifetime trees then labeledExpression rules
  else if Ahead.word "if" trees then ifExpression rules (trees.length + 1)
  else if Ahead.word "match" trees then matchExpression rules
  else if ← word? "try" then rules.block false
  else loopOrBlock rules

/-! ## Atoms -/

def expressionAhead (trees : List TokenTree) : Bool :=
  let begins (operator : String) (others : List String) :=
    Ahead.op operator trees && !others.any (Ahead.op · trees)
  Ahead.anyWord trees || [Delimiter.paren, .bracket, .brace].any (Ahead.group · trees)
    || Ahead.literal trees || begins "!" ["!="] || begins "-" ["-=", "->"] || begins "*" ["*="]
    || begins "|" ["|="] || begins "&" ["&="] || Ahead.op ".." trees
    || begins "<" ["<=", "<<="] || Ahead.op "::" trees || Ahead.lifetime trees
    || Ahead.op "#" trees

/-- The value behind `return` or `yield`, if there is one. -/
def optionalValue (rules : Rules) : Reader Unit := do
  if ← ahead expressionAhead then rules.value

/-- What follows `break`: perhaps a label, and perhaps a value.  A labeled loop cannot be the
    value. -/
def breakTarget (rules : Rules) (structs : Bool) : Reader Unit := do
  if ← ahead Ahead.lifetime then
    lifetime
    if ← ahead (Ahead.op ":") then failure
  if structs || !(← ahead (Ahead.group .brace)) then optionalValue rules

/-- The condition `let pattern = value`, whose value binds as tightly as a comparison. -/
def letCondition (rules : Rules) (structs : Bool) : Reader Unit := do
  word "let"
  rules.pattern true
  op "="
  let shape ← rules.operand structs
  let _ ← operators rules structs .comparison shape

/-- Whether a path, macro call or struct expression begins here. -/
def pathAhead (trees : List TokenTree) : Bool :=
  isPathStart trees || Ahead.op "::" trees || Ahead.op "<" trees
    || (Ahead.word "try" trees && (Ahead.op "!" (trees.drop 1) || Ahead.op "::" (trees.drop 1)))

def asyncBlockAhead (trees : List TokenTree) : Bool :=
  let next := trees.drop 1
  Ahead.word "async" trees && (Ahead.group .brace next
    || (Ahead.word "move" next && Ahead.group .brace (next.drop 1)))

def keywordExpression (rules : Rules) (structs : Bool) : Reader Unit := do
  let trees ← upcoming
  if asyncBlockAhead trees then
    word "async"
    let _ ← word? "move"
    rules.block false
  else if closureAhead trees then closure rules structs
  else if ← word? "break" then breakTarget rules structs
  else if ← word? "continue" then
    if ← ahead Ahead.lifetime then lifetime
  else if ← word? "return" then optionalValue rules
  else if ← word? "yield" then optionalValue rules
  else if Ahead.word "let" trees then letCondition rules structs
  else if blockAhead trees then blockExpression rules
  else word "_"

/-- An expression to which nothing is attached. -/
def atom (rules : Rules) (structs : Bool) : Reader Shape := do
  let trees ← upcoming
  if Ahead.literal trees then literal; return .other
  else if builtinAhead trees then builtin; return .raw
  else if Ahead.word "become" trees then
    word "become"
    rules.value
    return .raw
  else if pathAhead trees then pathExpression rules structs
  else if Ahead.group .paren trees then parenthesizedExpression rules; return .other
  else if Ahead.group .bracket trees then arrayExpression rules; return .other
  else if Ahead.op ".." trees then range rules structs; return .range
  else keywordExpression rules structs; return .other

/-! ## Members and calls -/

/-- The tokens of the indices that a number such as `0.1` stands for behind a point. -/
def indexTokens? : List (List Char) → Option (List Fragment)
  | [] => some []
  | [last] => (fieldIndex? last).map fun index => [indexToken index]
  | first :: rest =>
    match fieldIndex? first, indexTokens? rest with
    | some index, some others => some (indexToken index :: .token (.punct '.' false) :: others)
    | _, _ => none

/-- Reads a number with a point in it as several indices.  Answers `none` if no number comes
    next, and otherwise whether the number ends with a point. -/
def indices? : Reader (Option Bool) := do
  match ← upcoming with
  | .literal text :: rest =>
    let cs := text.toList
    if !(Ahead.isNumber text && cs.contains '.') then return none
    let pointed := cs.getLast? == some '.'
    match indexTokens? ((if pointed then cs.dropLast else cs).splitOn '.') with
    | some fragments =>
      advance rest (if pointed then fragments ++ [.token (.punct '.' false)] else fragments)
      return some pointed
    | none => failure
  | _ => return none

/-- A field or a method call behind a point, or `await`. -/
def namedMember (rules : Rules) : Reader Unit := do
  if ← word? "await" then return
  let named ← fieldName
  if named then
    let turbofish ← op? "::"
    if turbofish then
      let ((arguments, trailing), _) ← captured (angleArguments rules)
      emit [.angle arguments trailing]
    if turbofish || (← ahead (Ahead.group .paren)) then
      let _ ← group .paren (commaList rules.value)

/-- What follows the point behind an operand.  A number that ends with a point takes the point of
    the next member with it. -/
def member (rules : Rules) : Reader Unit := do
  match ← indices? with
  | some false => return
  | some true => namedMember rules
  | none => namedMember rules

/-- A call, an index, a member or a question mark behind an expression of the given shape.
    Answers whether there was one.  Members of a range need parentheses around it. -/
def trailer (rules : Rules) (shape : Shape) : Reader Bool := do
  let trees ← upcoming
  if Ahead.group .paren trees then
    let _ ← group .paren (commaList rules.value)
    return true
  else if Ahead.group .bracket trees then
    group .bracket rules.value
    return true
  else if shape = .range then return false
  else if Ahead.op "." trees && !Ahead.op ".." trees then
    op "."
    member rules
    return true
  else op? "?"

/-- Everything attached to an expression of the given shape, at most `limit` times.  Answers the
    shape of the whole. -/
def trailersWithin (rules : Rules) (shape : Shape) : Nat → Reader Shape
  | 0 => failure
  | limit + 1 => do
    if ← trailer rules shape then trailersWithin rules .other limit else return shape

def trailers (rules : Rules) (shape : Shape) : Reader Shape := do
  trailersWithin rules shape ((← upcoming).length + 1)

/-! ## Operands -/

/-- A reference, perhaps one by raw address. -/
def referenceOperator : Reader Unit := do
  op "&"
  let trees ← upcoming
  if Ahead.word "raw" trees
      && (Ahead.word "mut" (trees.drop 1) || Ahead.word "const" (trees.drop 1)) then
    let _ ← anyIdent
    let _ ← anyIdent
  else
    let _ ← word? "mut"

/-- An operand behind its attributes.  Answers its shape, and whether it stays raw together with
    its attributes. -/
def bareOperand (rules : Rules) (structs : Bool) : Reader Shape := do
  let trees ← upcoming
  if Ahead.op "&" trees then
    referenceOperator
    let _ ← rules.operand structs
    return .other
  else if ← op? "*" then
    let _ ← rules.operand structs
    return .other
  else if ← op? "!" then
    let _ ← rules.operand structs
    return .other
  else if ← op? "-" then
    let _ ← rules.operand structs
    return .other
  else
    let shape ← atom rules structs
    trailers rules shape

/-- An operand with everything in front of it and attached to it.  A range without a beginning
    takes no attributes. -/
def operand (rules : Rules) (structs : Bool) : Reader Shape :=
  rawWhen do
    let attributes ← outerAttributes rules
    let shape ← bareOperand rules structs
    if !attributes.isEmpty && shape = .range then failure
    return (shape, shape = .raw)

/-! ## Expressions -/

/-- An expression at the beginning of a statement or match arm.  One that ends with a block ends
    there, unless a member access or a question mark follows. -/
def statementExpression (rules : Rules) : Reader Shape := do
  let attributes ← phraseOf do
    let _ ← outerAttributes rules
  if ← ahead blockAhead then
    emit attributes
    blockExpression rules
    if ← ahead
        (fun trees => (Ahead.op "." trees && !Ahead.op ".." trees) || Ahead.op "?" trees) then
      let shape ← trailers rules .other
      operators rules true .lowest shape
    else return .block
  else
    let (shape, phrase) ← captured (rules.operand true)
    emit (attributed attributes shape phrase)
    operators rules true .lowest shape

def expression (rules : Rules) : Place → Reader Shape
  | .statement => statementExpression rules
  | .condition => do operators rules false .lowest (← rules.operand false)
  | .anywhere => do operators rules true .lowest (← rules.operand true)

end FieldDelta.Syntax.Grammar
