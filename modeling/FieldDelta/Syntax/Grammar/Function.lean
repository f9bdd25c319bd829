import FieldDelta.Syntax.Grammar.Declaration

/-! # Functions

Functions are only recognised: their qualifiers, parameters and results, and a body or the
semicolon in place of one.

* `functionAhead` — whether a function begins here;
* `functionItem` — a function.
-/

namespace FieldDelta.Syntax.Grammar

open Reader

/-- Whether a function begins here: qualifiers, perhaps a linkage, and `fn`.  `safe` says whether
    that word is a qualifier. -/
def functionAhead (safe : Bool) (trees : List TokenTree) : Bool :=
  let skipWord (text : String) (trees : List TokenTree) :=
    if Ahead.word text trees then trees.drop 1 else trees
  let trees := skipWord "async" (skipWord "const" trees)
  let trees :=
    if safe && Ahead.word "safe" trees then trees.drop 1 else skipWord "unsafe" trees
  let trees :=
    if Ahead.word "extern" trees then
      if Ahead.string (trees.drop 1) then trees.drop 2 else trees.drop 1
    else trees
  Ahead.word "fn" trees

/-- The type of a receiver that is written without one: `Self`, or a reference to it. -/
def selfType (reference : Bool) (lifetime : Phrase) (mutable : Bool) : Phrase :=
  (if reference then
      .token (.punct '&' false) :: lifetime ++ (if mutable then [.token (.word "mut")] else [])
    else []) ++ [.path (Path.ofNames ["Self"])]

def receiver (rules : Rules) : Reader Unit := do
  let reference ← op? "&"
  let lifetime ← phraseOf do
    if reference && (← ahead Ahead.lifetime) then lifetime
  emit lifetime
  let mutable ← word? "mut"
  word "self"
  let typed ← if reference then pure false else op? ":"
  if typed then rules.type true
  else emit [.implied (selfType reference lifetime mutable)]

/-- What a parameter of a function may be. -/
inductive ParameterKind where
  | receiver
  | typed
  /-- Any number of further arguments. -/
  | variadic
deriving DecidableEq, Repr

/-- A parameter of a function that is no receiver.  A type with arguments may stand alone; it is
    the type of a parameter without a name. -/
def typedParameter (rules : Rules) : Reader ParameterKind := do
  let trees ← upcoming
  if Ahead.ident trees && Ahead.op "<" (trees.drop 1) then
    emit [.token (.word "_"), .token (.punct ':' false)]
    rules.type true
    return .typed
  else
    rules.pattern false
    op ":"
    if ← op? "..." then return .variadic
    rules.type true
    return .typed

def functionParameter (rules : Rules) : Reader ParameterKind := do
  let _ ← outerAttributes rules
  if ← op? "..." then return .variadic
  (do receiver rules; return .receiver) <|> typedParameter rules

/-- The parameters of a function, at most `limit`.  A receiver can only be the first one, which
    `first` tells, and a variadic one only the last. -/
def functionParameters (rules : Rules) (first : Bool) : Nat → Reader Unit
  | 0 => failure
  | limit + 1 => do
    if ← atEnd then return
    let kind ← functionParameter rules
    if kind = .receiver && !first then failure
    if ← atEnd then return
    op ","
    if kind ≠ .variadic then functionParameters rules false limit

/-- The signature of a function.  Answers whether it has the qualifier `safe`, which is read only
    if the argument `safe` is set. -/
def signature (rules : Rules) (safe : Bool) : Reader Bool := do
  let _ ← word? "const"
  let _ ← word? "async"
  let restricted ← word? "unsafe"
  let qualified ← if safe && !restricted then word? "safe" else pure false
  let _ ← linkage?
  word "fn"
  let _ ← ident
  let _ ← parameters rules
  group .paren do functionParameters rules true ((← upcoming).length + 1)
  resultType rules true
  let _ ← conditions rules
  return qualified

/-- A function with a body, or a declaration that ends with a semicolon.  Answers whether it is a
    declaration. -/
def functionItem (rules : Rules) : Reader Bool := do
  let _ ← signature rules false
  if ← op? ";" then return true
  rules.block true
  return false

end FieldDelta.Syntax.Grammar
