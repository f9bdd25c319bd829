import FieldDelta.Syntax.Grammar.Rules

/-! # Paths and generic arguments

* `Grammar.path`, `Grammar.qualifiedPath` — paths of types and of expressions; in an expression
  generic arguments need a `::` in front;
* `Grammar.plainPath` — paths without generic arguments.

The readers of paths add the path they have read as one fragment.
-/

namespace FieldDelta.Syntax.Grammar

open Reader

/-- Whether paths of types or of expressions are read. -/
inductive PathStyle where
  | type
  | expression
deriving DecidableEq, Repr

/-! ## Generic arguments -/

/-- A constant as a generic argument: a literal or a block. -/
def constantArgument (rules : Rules) : Reader Unit := do
  if ← ahead Ahead.literal then literal
  else construct (rules.block true)

/-- Whether an argument that was read as a type may go on as `Name = …` or `Name: …`. -/
def isAssociatedName : Phrase → Bool
  | [.path (.mk false [.mk _ arguments])] =>
    match arguments with
    | .parenthesized _ => false
    | _ => true
  | _ => false

/-- The name of an associated item names nothing in scope, so it is no path.  Its arguments are
    types like any other. -/
def asAssociatedName : Phrase → Phrase
  | [.path (.mk false [.mk name arguments])] =>
    .token (.word name) ::
      match arguments with
      | .angle turbofish arguments trailing =>
        (if turbofish then separatorTokens.map .token else []) ++ [.angle arguments trailing]
      | _ => []
  | phrase => phrase

/-- Bounds of a constraint on an associated type, up to a comma or the closing `>`. -/
def constraintBounds (rules : Rules) : Reader Unit := do
  let _ ← listOf "+" (fun trees => Ahead.op "," trees || Ahead.op ">" trees)
    (rules.bound { constant := true })

/-- What may follow the name of an associated item: a constant or type behind `=`, or bounds
    behind a colon. -/
def associatedRest (rules : Rules) : Reader ArgumentKind := do
  if ← op? "=" then
    if ← ahead (fun trees => Ahead.literal trees || Ahead.group .brace trees) then
      constantArgument rules
    else rules.type true
    return .other
  else if ← op? ":" then
    constraintBounds rules
    return .other
  else return .type

/-- One argument between angle brackets. -/
def genericArgument (rules : Rules) : Reader Argument := do
  let trees ← upcoming
  if Ahead.lifetime trees && !Ahead.op "+" (Ahead.skip trees) then
    let phrase ← phraseOf lifetime
    return .mk .lifetime phrase
  else if Ahead.literal trees || Ahead.group .brace trees then
    let phrase ← phraseOf (constantArgument rules)
    return .mk .other phrase
  else
    let type ← phraseOf (rules.type true)
    if isAssociatedName type then
      let (kind, rest) ← captured (associatedRest rules)
      return .mk kind (if kind == .type then type else asAssociatedName type ++ rest)
    else return .mk .type type

/-- Arguments in angle brackets, the opening `<` included. -/
def angleArguments (rules : Rules) : Reader (List Argument × Bool) := do
  op "<"
  let found ← listOf "," (Ahead.op ">") (genericArgument rules)
  op ">"
  return found

/-! ## Paths -/

/-- Whether generic arguments come next; in an expression they need a `::` in front. -/
def argumentsAhead (style : PathStyle) (trees : List TokenTree) : Bool :=
  (style == .type && Ahead.op "<" trees && !Ahead.op "<=" trees && !Ahead.op "<<=" trees)
    || (Ahead.op "::" trees && Ahead.op "<" (trees.drop 2))

/-- Keywords that can be a segment but take no arguments. -/
def isBareSegment (text : String) : Bool :=
  ["super", "self", "crate", "try"].contains text

def segment (rules : Rules) (style : PathStyle) : Reader Segment := do
  let (found, _) ← captured do
    if ← ahead (fun trees => Ahead.anyWord trees && (match trees with
        | .word text :: _ => isBareSegment text
        | _ => false)) then
      return Segment.plain (← anyIdent)
    let name ← if ← ahead (Ahead.word "Self") then anyIdent else ident
    if ← ahead (argumentsAhead style) then
      let turbofish ← op? "::"
      let (arguments, trailing) ← angleArguments rules
      return .mk name (.angle turbofish arguments trailing)
    else
      return Segment.plain name
  return found

/-- Further segments, each behind a `::` that no parenthesis follows. -/
def moreSegments (rules : Rules) (style : PathStyle) : Nat → Reader (List Segment)
  | 0 => failure
  | limit + 1 => do
    let trees ← upcoming
    if Ahead.op "::" trees && !Ahead.group .paren (trees.drop 2) then
      op "::"
      let next ← segment rules style
      return next :: (← moreSegments rules style limit)
    else return []

def barePath (rules : Rules) (style : PathStyle) : Reader Path := do
  let (found, _) ← captured do
    let leading ← op? "::"
    let first ← segment rules style
    let others ← moreSegments rules style ((← upcoming).length + 1)
    return Path.mk leading (first :: others)
  return found

def path (rules : Rules) (style : PathStyle) : Reader Path := do
  let found ← barePath rules style
  emit [.path found]
  return found

/-- The segments behind the `>` of a qualified path, at least one. -/
def qualifiedRest (rules : Rules) (style : PathStyle) : Nat → Reader (List Segment)
  | 0 => failure
  | limit + 1 => do
    let next ← segment rules style
    if ← op? "::" then return next :: (← qualifiedRest rules style limit)
    else return [next]

/-- A path `<T>::rest` or `<T as Trait>::rest`, which is answered as a fragment. -/
def qualified (rules : Rules) (style : PathStyle) : Reader Fragment := do
  let (found, _) ← captured do
    op "<"
    let self ← phraseOf (rules.type true)
    let trait ← if ← word? "as" then some <$> barePath rules .type else pure none
    op ">"
    op "::"
    let rest ← qualifiedRest rules style ((← upcoming).length + 1)
    match trait with
    | some (.mk leading segments) =>
      return Fragment.qualified self segments.length (.mk leading (segments ++ rest))
    | none => return Fragment.qualified self 0 (.mk true rest)
  return found

/-- A path, qualified or not.  Answers the path if it is not qualified. -/
def qualifiedPath (rules : Rules) (style : PathStyle) : Reader (Option Path) := do
  if ← ahead (Ahead.op "<") then
    let found ← qualified rules style
    emit [found]
    return none
  else
    return some (← path rules style)

/-- Words that a path without arguments may consist of. -/
def isPlainSegment (text : String) : Bool :=
  !Ahead.isReserved text || ["super", "self", "Self", "crate"].contains text

/-- The names of a path without arguments. -/
def plainNames : Nat → Reader (List String)
  | 0 => failure
  | limit + 1 => do
    let name ← wordWith isPlainSegment
    if ← op? "::" then return name :: (← plainNames limit) else return [name]

/-- A path without generic arguments. -/
def plainPath : Reader Path := do
  let (found, _) ← captured do
    let leading ← op? "::"
    let names ← plainNames ((← upcoming).length + 1)
    return Path.mk leading (names.map Segment.plain)
  emit [.path found]
  return found

end FieldDelta.Syntax.Grammar
