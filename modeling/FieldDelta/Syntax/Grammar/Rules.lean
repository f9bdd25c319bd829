import FieldDelta.Syntax.Reader

/-! # The knots of the grammar

Types, bounds, patterns, expressions, blocks and items contain each other.  Each rule of the
grammar takes the readers for these as a parameter, `Rules`, and refers to itself only through
them; the rules are tied together in `FieldDelta.Syntax.Parse`.
-/

namespace FieldDelta.Syntax

/-- Where an expression stands, which decides how far it reaches. -/
inductive Place where
  /-- Where nothing restricts it. -/
  | anywhere
  /-- In front of a block, where a brace cannot begin the fields of a struct. -/
  | condition
  /-- At the beginning of a statement or match arm, where a block ends it. -/
  | statement
deriving DecidableEq, Repr

/-- What was read as an expression, as far as it decides what may follow. -/
inductive Shape where
  /-- An expression that ends with a block, at the beginning of a statement.  The next statement
      may follow at once. -/
  | block
  /-- A macro call in braces, after which a semicolon may be missing but not a comma. -/
  | bracedMacro
  | range
  | comparison
  /-- Tokens that stay raw. -/
  | raw
  | other
deriving DecidableEq, Repr

/-- What was read as a type, as far as it decides what may follow. -/
inductive TypeForm where
  /-- A path that is not qualified. -/
  | path
  /-- A single trait bound that is no path: it has a binder or a question mark. -/
  | bound
  | other
deriving DecidableEq, Repr

/-- What was read as a pattern, as far as it decides what may follow. -/
inductive PatternForm where
  /-- A range with both ends. -/
  | range
  /-- A range that lacks one of its ends. -/
  | openRange
  /-- Tokens that stay raw. -/
  | raw
  | other
deriving DecidableEq, Repr

/-- What a bound may be besides a lifetime or a trait. -/
structure BoundForm where
  /-- `use<…>` may stand among the bounds. -/
  captures : Bool := false
  /-- `const Trait` and `[const] Trait` are bounds. -/
  constant : Bool := false
deriving DecidableEq, Repr

/-- What kind of bound was read. -/
inductive BoundKind where
  | lifetime
  | trait
  | captures
deriving DecidableEq, Repr

/-- Readers for the parts of the grammar that contain each other. -/
structure Rules where
  /-- A type; the argument says whether `A + B` is one. -/
  typeForm : Bool → Reader TypeForm
  bound : BoundForm → Reader BoundKind
  /-- A pattern; the argument says whether alternatives may be joined by `|`. -/
  patternForm : Bool → Reader PatternForm
  expression : Place → Reader Shape
  /-- An expression without binary operators; the argument says whether a brace may begin the
      fields of a struct. -/
  operand : Bool → Reader Shape
  /-- A block; the argument says whether inner attributes may stand in it. -/
  block : Bool → Reader Unit
  item : Reader Item

namespace Rules

def none : Rules where
  typeForm _ := failure
  bound _ := failure
  patternForm _ := failure
  expression _ := failure
  operand _ := failure
  block _ := failure
  item := failure

/-- A type; the argument says whether `A + B` is one. -/
def type (rules : Rules) (plus : Bool) : Reader Unit := do
  let _ ← rules.typeForm plus

/-- A pattern; the argument says whether alternatives may be joined by `|`. -/
def pattern (rules : Rules) (alternatives : Bool) : Reader Unit := do
  let _ ← rules.patternForm alternatives

/-- An expression that may stand anywhere. -/
def value (rules : Rules) : Reader Unit := do
  let _ ← rules.expression .anywhere

end Rules
end FieldDelta.Syntax
