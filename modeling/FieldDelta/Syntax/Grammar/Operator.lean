import FieldDelta.Syntax.Grammar.Type

/-! # Operators between operands

Which operators may follow an operand depends on how tightly they bind: a comparison cannot
follow a comparison, nothing follows a range, and an assignment reaches to the right.

* `Strength` — how tightly an operator binds;
* `operatorAhead?` — the operator that comes next;
* `Grammar.operators` — operators and operands behind an operand;
* `Grammar.range` — a range without a beginning.

The operands come from `Rules.operand`.
-/

namespace FieldDelta.Syntax.Grammar

open Reader

/-! ## Operators -/

/-- How tightly an operator binds, from loosest to tightest. -/
inductive Strength where
  | lowest
  | assignment
  | range
  | or
  | and
  | comparison
  | bitOr
  | bitXor
  | bitAnd
  | shift
  | sum
  | product
  | cast
deriving DecidableEq, Repr

/-- The position of a strength among all, the loosest first. -/
def Strength.rank (strength : Strength) : Nat :=
  strength.ctorIdx

/-- An operator and how tightly it binds. -/
structure Operator where
  text : String
  strength : Strength

/-- The binary operators, longer ones first. -/
def binaryOperators : List Operator :=
  [⟨"<<=", .assignment⟩, ⟨">>=", .assignment⟩, ⟨"+=", .assignment⟩, ⟨"-=", .assignment⟩,
   ⟨"*=", .assignment⟩, ⟨"/=", .assignment⟩, ⟨"%=", .assignment⟩, ⟨"^=", .assignment⟩,
   ⟨"&=", .assignment⟩, ⟨"|=", .assignment⟩, ⟨"&&", .and⟩, ⟨"||", .or⟩, ⟨"<<", .shift⟩,
   ⟨">>", .shift⟩, ⟨"==", .comparison⟩, ⟨"<=", .comparison⟩, ⟨"!=", .comparison⟩,
   ⟨">=", .comparison⟩, ⟨"+", .sum⟩, ⟨"-", .sum⟩, ⟨"*", .product⟩, ⟨"/", .product⟩,
   ⟨"%", .product⟩, ⟨"^", .bitXor⟩, ⟨"&", .bitAnd⟩, ⟨"|", .bitOr⟩, ⟨"<", .comparison⟩,
   ⟨">", .comparison⟩]

/-- The operator that comes next.  A single `=` is an assignment, `=>` is none. -/
def operatorAhead? (trees : List TokenTree) : Option Operator :=
  match binaryOperators.find? fun operator => Ahead.op operator.text trees with
  | some operator => some operator
  | none =>
    if Ahead.op "=" trees && !Ahead.op "=>" trees then some ⟨"=", .assignment⟩
    else if Ahead.op ".." trees then some ⟨"..", .range⟩
    else if Ahead.word "as" trees then some ⟨"as", .cast⟩
    else none

/-- How tightly the operator that comes next binds; if there is none, not at all. -/
def strengthAhead (trees : List TokenTree) : Strength :=
  match operatorAhead? trees with
  | some operator => operator.strength
  | none => .lowest

/-! ## Casts and ranges -/

/-- Whether a member, a call or the like comes next, which cannot be attached to a cast. -/
def trailerAhead (trees : List TokenTree) : Bool :=
  (Ahead.op "." trees && !Ahead.op ".." trees) || Ahead.op "?" trees
    || Ahead.group .bracket trees || Ahead.group .paren trees

def cast (rules : Rules) : Reader Unit := do
  word "as"
  rules.type false
  if ← ahead trailerAhead then failure

def openRange (structs : Bool) (trees : List TokenTree) : Bool :=
  trees.isEmpty || Ahead.op "," trees || Ahead.op ";" trees
    || (Ahead.op "." trees && !Ahead.op ".." trees) || Ahead.op "?" trees
    || Ahead.op "=>" trees || (!structs && Ahead.group .brace trees)
    || Ahead.op "=" trees || Ahead.op "+" trees || Ahead.op "/" trees || Ahead.op "%" trees
    || Ahead.op "^" trees || Ahead.op ">" trees || Ahead.op "<=" trees || Ahead.op "!=" trees
    || Ahead.op "-=" trees || Ahead.op "*=" trees || Ahead.op "&=" trees
    || Ahead.op "|=" trees || Ahead.op "<<=" trees || Ahead.word "as" trees

/-- The dots of a range.  Answers whether the end belongs to the range, so that there must be
    one. -/
def rangeLimits : Reader Bool := do
  if ← op? "..=" then return true
  else if ← ahead (Ahead.op "...") then failure
  else op ".."; return false

/-! ## Sequences of operators and operands -/

mutual

/-- Operators that bind at least as tightly as `base`, with their right operands, behind an
    operand of the given shape.  Answers the shape of the whole. -/
def operatorsWithin (rules : Rules) (structs : Bool) (base : Strength) (shape : Shape) :
    Nat → Reader Shape
  | 0 => failure
  | limit + 1 => do
    match operatorAhead? (← upcoming) with
    | none => return shape
    | some operator =>
      if shape = .range || operator.strength.rank < base.rank then return shape
      match operator.strength with
      | .range =>
        rangeBehind rules structs limit
        return .range
      | .cast =>
        cast rules
        operatorsWithin rules structs base .other limit
      | .comparison =>
        if shape = .comparison then failure
        op operator.text
        rightOperand rules structs .comparison limit
        operatorsWithin rules structs base .comparison limit
      | strength =>
        op operator.text
        rightOperand rules structs strength limit
        operatorsWithin rules structs base .other limit

/-- The right operand of an operator, with everything that binds more tightly than it. -/
def rightOperand (rules : Rules) (structs : Bool) (strength : Strength) : Nat → Reader Unit
  | 0 => failure
  | limit + 1 => do
    let shape ← rules.operand structs
    tighterOperators rules structs strength shape limit

/-- Operators that bind more tightly than `strength`, behind an operand of the given shape.
    Assignments reach to the right, so one may follow another. -/
def tighterOperators (rules : Rules) (structs : Bool) (strength : Strength) (shape : Shape) :
    Nat → Reader Unit
  | 0 => failure
  | limit + 1 => do
    let trees ← upcoming
    let next := strengthAhead trees
    if strength.rank < next.rank || (strength = .assignment && next = .assignment) then
      let shape ← operatorsWithin rules structs next shape limit
      if (← upcoming).length < trees.length then
        tighterOperators rules structs strength shape limit

def rangeBehind (rules : Rules) (structs : Bool) : Nat → Reader Unit
  | 0 => failure
  | limit + 1 => do
    let closed ← rangeLimits
    if closed || !(← ahead (openRange structs)) then rightOperand rules structs .range limit

end

/-- A bound on the number of steps in a sequence of operators, each of which takes some steps. -/
def stepLimit : Reader Nat := do
  return 4 * (← upcoming).length + 4

/-- Operators that bind at least as tightly as `base`, with their right operands, behind an
    operand of the given shape.  Answers the shape of the whole. -/
def operators (rules : Rules) (structs : Bool) (base : Strength) (shape : Shape) :
    Reader Shape := do
  operatorsWithin rules structs base shape (← stepLimit)

def range (rules : Rules) (structs : Bool) : Reader Unit := do
  rangeBehind rules structs (← stepLimit)

end FieldDelta.Syntax.Grammar
