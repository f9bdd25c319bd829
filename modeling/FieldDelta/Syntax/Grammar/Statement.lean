import FieldDelta.Syntax.Grammar.Pattern

/-! # Statements and blocks

* `Grammar.block` — a block in braces;
* `Grammar.statements` — what stands in it.

A statement that is an expression needs a semicolon when another statement follows, unless the
expression ends with a block.
-/

namespace FieldDelta.Syntax.Grammar

open Reader

/-- Whether an item begins here, after its attributes. -/
def itemAhead (trees : List TokenTree) : Bool :=
  let is := Ahead.word
  let next := trees.drop 1
  let third := next.drop 1
  is "pub" trees || (is "crate" trees && !Ahead.op "::" next) || is "extern" trees
    || is "use" trees
    || (is "static" trees && (is "mut" next
        || (Ahead.ident next && !(is "async" next && (is "move" third || Ahead.op "|" third)))))
    || (is "const" trees && !(Ahead.group .brace next || is "static" next
        || (is "async" next && !(is "unsafe" third || is "extern" third || is "fn" third))
        || is "move" next || Ahead.op "|" next))
    || (is "unsafe" trees && !Ahead.group .brace next)
    || (is "async" trees && (is "unsafe" next || is "extern" next || is "fn" next))
    || is "fn" trees || is "mod" trees || is "type" trees || is "struct" trees
    || is "enum" trees || (is "union" trees && Ahead.ident next)
    || (is "auto" trees && is "trait" next) || is "trait" trees
    || (is "default" trees && (is "unsafe" next || is "impl" next)) || is "impl" trees
    || is "macro" trees

/-- A `let` statement.  No `else` may follow a value that ends with a brace. -/
def letStatement (rules : Rules) : Reader Unit := do
  word "let"
  rules.pattern false
  if ← op? ":" then rules.type true
  if ← op? "=" then
    let value ← phraseOf rules.value
    emit value
    if !value.endsWithBrace then
      if ← word? "else" then rules.block false
  op ";"

/-- What the trees behind a plain path say about a statement that may be a macro call. -/
inductive MacroForm where
  /-- `name! other …`, which defines something. -/
  | definition
  /-- A call in braces that is a statement of its own. -/
  | braced
  | none
deriving DecidableEq

def macroForm (trees : List TokenTree) : MacroForm :=
  match (plainPath.run { rest := trees }) with
  | some (_, cursor) =>
    let rest := cursor.rest
    if bangAhead rest then
      let next := rest.drop 1
      let third := next.drop 1
      if Ahead.ident next || Ahead.word "try" next then .definition
      else if Ahead.group .brace next
          && !((Ahead.op "." third && !Ahead.op ".." third) || Ahead.op "?" third) then .braced
      else .none
    else .none
  | none => .none

/-- Puts attributes in front of an expression.  A range stands in parentheses behind them, and
    raw tokens take none. -/
def attributed (attributes : Phrase) (shape : Shape) (expression : Phrase) : Phrase :=
  if attributes.isEmpty then expression
  else
    match shape with
    | .range => attributes ++ [.group .paren expression]
    | .raw => expression
    | _ => attributes ++ expression

/-- A statement that is an expression, behind its attributes.  Answers `Shape.block` when nothing
    is left to end it. -/
def expressionStatement (rules : Rules) (attributes : Phrase) : Reader Shape := do
  let (shape, phrase) ← captured (rules.expression .statement)
  emit (attributed attributes shape phrase)
  if ← op? ";" then return .block else return shape

/-- One statement.  Answers `Shape.block` when nothing is left to end it. -/
def statement (rules : Rules) : Reader Shape := do
  let beginning ← get
  let attributes ← phraseOf do
    let _ ← outerAttributes rules
  let trees ← upcoming
  let form := macroForm trees
  if form = .braced then
    emit attributes
    let _ ← plainPath
    op "!"
    let _ ← rawGroup
    let _ ← op? ";"
    return .block
  else if Ahead.word "let" trees then
    emit attributes
    letStatement rules
    return .block
  else if form = .definition || itemAhead trees then
    -- The item reads its attributes itself.
    set beginning
    let _ ← rules.item
    return .block
  else expressionStatement rules attributes

/-- Statements up to the end of the trees. -/
def statements (rules : Rules) : Reader Unit :=
  repeatedly do
    if ← atEnd then return false
    if ← op? ";" then return true
    let shape ← statement rules
    if shape = .block || shape = .bracedMacro then return true
    if ← atEnd then return false
    failure

/-- A block, in which inner attributes may stand first if `inner` is set. -/
def block (rules : Rules) (inner : Bool) : Reader Unit :=
  group .brace do
    if inner then
      let _ ← innerAttributes rules
    statements rules

end FieldDelta.Syntax.Grammar
