import FieldDelta.Syntax.Grammar.Attribute

/-! # Bounds, parameters and conditions

* `Grammar.bound` — a trait or lifetime bound; `Grammar.objectBounds` — several of them that
  make up a type;
* `Grammar.parameters` — the parameter list of a declaration;
* `Grammar.conditions` — its `where` clause.

A trait bound is the only place where a path may take parenthesized arguments, `Fn(A) -> B`.
-/

namespace FieldDelta.Syntax.Grammar

open Reader

/-! ## Parameters -/

/-- Whether a `<` begins a list of parameters, and not a qualified path. -/
def parametersAhead (trees : List TokenTree) : Bool :=
  let next := trees.drop 1
  let third := Ahead.skip next
  Ahead.op "<" trees && (Ahead.op ">" next || Ahead.op "#" next
    || ((Ahead.ident next || Ahead.lifetime next)
        && ((Ahead.op ":" third && !Ahead.op "::" third) || Ahead.op "," third
            || Ahead.op ">" third || Ahead.op "=" third))
    || Ahead.word "const" next)

def parameterBoundEnd (trees : List TokenTree) : Bool :=
  Ahead.op "," trees || Ahead.op ">" trees || Ahead.op "=" trees

/-- A colon and what follows it.  The colon is left out when nothing does. -/
def afterColon {α : Type} (elements : Reader (List α × Bool)) : Reader Unit := do
  let ((found, _), phrase) ← captured do
    op ":"
    elements
  if !found.isEmpty then emit phrase

def parameterBounds {α : Type} (bound : Reader α) : Reader Unit := do
  if ← ahead (Ahead.op ":") then afterColon (listOf "+" parameterBoundEnd bound)

/-- The value of a constant parameter: a literal, a name or a block. -/
def constantDefault (rules : Rules) : Reader Unit := do
  if ← ahead (fun trees => !Ahead.literal trees && Ahead.ident trees) then
    let name ← (·.1) <$> captured ident
    emit [.path (Path.ofNames [name])]
  else constantArgument rules

def parameter (rules : Rules) : Reader Argument := do
  let (kind, phrase) ← captured do
    let _ ← outerAttributes rules
    if ← ahead Ahead.lifetime then
      lifetime
      parameterBounds lifetime
      return .lifetime
    else if ← word? "const" then
      let _ ← ident
      op ":"
      rules.type true
      if ← op? "=" then constantDefault rules
      return .other
    else
      let _ ← ident
      parameterBounds (rules.bound { constant := true })
      if ← op? "=" then rules.type true
      return .other
  return .mk kind phrase

def declaredParameter (rules : Rules) : Reader Argument :=
  parameter rules <|> do
    let (_, phrase) ← captured do
      let _ ← outerAttributes rules
      word "_"
    return .mk .other phrase

/-- The parameters of a declaration; there may be none. -/
def parameters (rules : Rules) : Reader Phrase := do
  if ← ahead (Ahead.op "<") then
    let ((found, trailing), _) ← captured do
      op "<"
      let found ← listOf "," (Ahead.op ">") (declaredParameter rules)
      op ">"
      return found
    if found.isEmpty then return []
    let phrase := [Fragment.angle found trailing]
    emit [.part .parameters phrase]
    return phrase
  else return []

/-! ## Bounds -/

/-- The binder `for<…>` in front of a type or bound. -/
def binder (rules : Rules) : Reader Unit := do
  word "for"
  op "<"
  let _ ← listOf "," (Ahead.op ">") do
    let .mk _ phrase ← parameter rules
    emit phrase
  op ">"

def binder? (rules : Rules) : Reader Bool := do
  if ← ahead (Ahead.word "for") then binder rules; return true else return false

/-- Result type behind `->`, if there is one.  It is no sum of bounds unless `plus` is set. -/
def resultType (rules : Rules) (plus : Bool) : Reader Unit := do
  if ← op? "->" then rules.type plus

def parenthesizedArguments (rules : Rules) : Reader Unit := do
  let _ ← group .paren (commaList (rules.type true))
  resultType rules false

/-- A path whose last segment is given the arguments `phrase`, in place of any others. -/
def withParenthesized (path : Path) (phrase : Phrase) : Path :=
  match path.segments.getLast? with
  | some last =>
    .mk path.leading (path.segments.dropLast ++ [.mk last.name (.parenthesized phrase)])
  | none => path

/-- Whether the last segment of a path has no arguments yet, or an empty list of them. -/
def endsPlain (path : Path) : Bool :=
  match path.segments.getLast? with
  | some (.mk _ .none) => true
  | some (.mk _ (.angle _ [] _)) => true
  | _ => false

def traitPath (rules : Rules) : Reader Unit := do
  let found ← barePath rules .type
  let trees ← upcoming
  if endsPlain found && (Ahead.group .paren trees
      || (Ahead.op "::" trees && Ahead.group .paren (trees.drop 2))) then
    let (_, _) ← captured (op? "::")
    let phrase ← phraseOf (parenthesizedArguments rules)
    emit [.path (withParenthesized found phrase)]
  else emit [.path found]

/-- A trait bound without the parentheses that may stand around it.  Answers whether it is a
    bound by a constant implementation, which stays raw. -/
def traitBound (rules : Rules) (form : BoundForm) : Reader Bool := do
  let bound ← binder? rules
  let bracketed ← ahead (Ahead.group .bracket)
  if bracketed then group .bracket (word "const")
  let constant ← if bracketed then pure true else word? "const"
  if constant && !form.constant then failure
  if ← op? "?" then
    if bound then failure
    if ← binder? rules then failure
  traitPath rules
  return constant

/-- The list of captured parameters in `use<…>`. -/
def captureList : Reader Unit := do
  word "use"
  let ((found, trailing), _) ← captured do
    op "<"
    let found ← listOf "," (Ahead.op ">") do
      let (kind, phrase) ← captured do
        if ← ahead Ahead.lifetime then
          lifetime
          return .lifetime
        else
          let _ ← wordWith fun text => text == "Self" || !Ahead.isReserved text
          return .other
      return Argument.mk kind phrase
    op ">"
    return found
  emit [.angle found trailing]

def bound (rules : Rules) (form : BoundForm) : Reader BoundKind := do
  if ← ahead Ahead.lifetime then
    lifetime
    return .lifetime
  else if ← ahead (Ahead.word "use") then
    if !form.captures then failure
    captureList
    return .captures
  else
    rawIf do
      if ← ahead (Ahead.group .paren) then group .paren (traitBound rules form)
      else traitBound rules form
    return .trait

/-- Whether another bound may follow a `+`. -/
def boundAhead (form : BoundForm) (trees : List TokenTree) : Bool :=
  Ahead.anyWord trees || Ahead.op "::" trees || Ahead.op "?" trees || Ahead.lifetime trees
    || Ahead.group .paren trees || (form.constant && Ahead.group .bracket trees)

/-- Bounds joined by `+`, of which at least one is read; a `+` may follow the last.  Without
    `plus` there is only one. -/
def boundsWithin (rules : Rules) (form : BoundForm) (plus : Bool) : Nat → Reader (List BoundKind)
  | 0 => failure
  | limit + 1 => do
    let first ← rules.bound form
    if plus && (← ahead (Ahead.op "+")) then
      op "+"
      if ← ahead (boundAhead form) then
        return first :: (← boundsWithin rules form plus limit)
      else return [first]
    else return [first]

/-- Bounds of an object or opaque type, among which there must be a trait. -/
def objectBounds (rules : Rules) (form : BoundForm) (plus : Bool) : Reader Unit := do
  let kinds ← boundsWithin rules form plus ((← upcoming).length + 1)
  if !kinds.contains .trait then failure

/-! ## Conditions -/

def conditionEnd (trees : List TokenTree) : Bool :=
  trees.isEmpty || Ahead.group .brace trees || Ahead.op "," trees || Ahead.op ";" trees
    || (Ahead.op ":" trees && !Ahead.op "::" trees) || Ahead.op "=" trees

/-- Elements joined by `+` up to the end of a condition. -/
def sumOf (element : Reader Unit) : Nat → Reader Unit
  | 0 => failure
  | limit + 1 => do
    if ← ahead conditionEnd then return
    element
    if ← op? "+" then sumOf element limit

def boundsOfCondition (rules : Rules) : Reader Unit := do
  sumOf (do let _ ← rules.bound { constant := true }) ((← upcoming).length + 1)

/-- One condition of a `where` clause. -/
def condition (rules : Rules) : Reader Unit := do
  let trees ← upcoming
  if Ahead.lifetime trees && Ahead.op ":" (Ahead.skip trees) then
    lifetime
    op ":"
    sumOf lifetime ((← upcoming).length + 1)
  else
    let _ ← binder? rules
    rules.type true
    op ":"
    boundsOfCondition rules

/-- The conditions of a `where` clause, with commas between them. -/
def conditionsWithin (rules : Rules) : Nat → Reader Bool
  | 0 => failure
  | limit + 1 => do
    if ← ahead conditionEnd then return true
    condition rules
    if ← op? "," then
      let _ ← conditionsWithin rules limit
    return false

/-- The `where` clause of a declaration, if there is one.  Nothing is added for an empty one.
    Parameters cannot stand in front of the conditions. -/
def conditions (rules : Rules) : Reader Phrase := do
  if ← ahead (Ahead.word "where") then
    let (isEmpty, phrase) ← captured do
      word "where"
      if ← ahead parametersAhead then failure
      conditionsWithin rules ((← upcoming).length + 1)
    if isEmpty then return []
    emit [.part .conditions phrase]
    return phrase
  else return []

end FieldDelta.Syntax.Grammar
