import FieldDelta.Naming
import FieldDelta.Syntax.Item

/-! # Reading token trees

A reader consumes token trees from the left and keeps a phrase of what it has read.  It fails,
without saying why, when the tokens are not what it expects.

* `Ahead` — questions about the tokens to come, which consume nothing;
* `Reader` — readers, and the ones for single tokens and groups;
* `construct`, `inTurn`, `rawWhen` — what a reader leaves behind in the phrase;
* `repeatedly`, `listOf` — repetition, bounded by the number of trees left.
-/

namespace FieldDelta.Syntax

/-! ## Looking ahead -/

namespace Ahead

/-- Drops one tree; a lifetime counts as one. -/
def skip : List TokenTree → List TokenTree
  | .punct '\'' _ :: .word _ :: rest => rest
  | _ :: rest => rest
  | [] => []

/-- Whether an operator comes next.  All its characters but the last must be joint. -/
def isOp : List Char → List TokenTree → Bool
  | [c], .punct d _ :: _ => c == d
  | c :: rest, .punct d true :: trees => c == d && isOp rest trees
  | _, _ => false

/-- Whether the operator `op` comes next. -/
def op (op : String) (trees : List TokenTree) : Bool :=
  isOp op.toList trees

/-- Whether the word `text` comes next. -/
def word (text : String) : List TokenTree → Bool
  | .word found :: _ => found == text
  | _ => false

/-- Whether any word comes next, be it a keyword. -/
def anyWord : List TokenTree → Bool
  | .word _ :: _ => true
  | _ => false

/-- Words that no identifier can be: the keywords, and the underscore. -/
def isReserved (text : String) : Bool :=
  text == "_" || Naming.isKeyword text

def ident : List TokenTree → Bool
  | .word text :: _ => !isReserved text
  | _ => false

def lifetime : List TokenTree → Bool
  | .punct '\'' _ :: .word _ :: _ => true
  | _ => false

def group (delimiter : Delimiter) : List TokenTree → Bool
  | .group found _ :: _ => found == delimiter
  | _ => false

def isNumber (text : String) : Bool :=
  match text.toList with
  | c :: _ => c.isDigit
  | [] => false

/-- Whether a literal comes next: a literal token, a truth value, or a negated number. -/
def literal : List TokenTree → Bool
  | .literal _ :: _ => true
  | .word text :: _ => text == "true" || text == "false"
  | .punct '-' _ :: .literal text :: _ => isNumber text
  | _ => false

def string : List TokenTree → Bool
  | .literal text :: _ =>
    match text.toList with
    | '"' :: _ => true
    | 'r' :: _ => true
    | _ => false
  | _ => false

end Ahead

/-! ## Readers -/

/-- The trees to come, and the fragments read so far, last one first. -/
structure Cursor where
  rest : List TokenTree
  read : List Fragment := []

/-- A reader of `α`. -/
abbrev Reader := StateT Cursor Option

namespace Reader

def upcoming : Reader (List TokenTree) := do
  return (← get).rest

/-- Asks about the trees to come. -/
def ahead (question : List TokenTree → Bool) : Reader Bool := do
  return question (← get).rest

def atEnd : Reader Bool :=
  ahead List.isEmpty

def emit (fragments : List Fragment) : Reader Unit :=
  modify fun cursor => { cursor with read := fragments.reverse ++ cursor.read }

/-- Goes on at `rest` and adds `fragments` to what has been read. -/
def advance (rest : List TokenTree) (fragments : List Fragment) : Reader Unit := do
  let before := (← get).read
  set { rest := rest, read := fragments.reverse ++ before : Cursor }

/-- Runs a reader and answers the phrase it has read as well, without adding it. -/
def captured {α : Type} (reader : Reader α) : Reader (α × Phrase) := do
  let before := (← get).read
  modify fun cursor => { cursor with read := [] }
  let value ← reader
  let phrase := (← get).read.reverse
  modify fun cursor => { cursor with read := before }
  return (value, phrase)

def phraseOf (reader : Reader Unit) : Reader Phrase := do
  return (← captured reader).2

def construct {α : Type} (reader : Reader α) : Reader α := do
  let (value, phrase) ← captured reader
  emit [.construct phrase]
  return value

/-- Reads a part of a construct that is looked at in the given turn. -/
def inTurn {α : Type} (turn : Turn) (reader : Reader α) : Reader α := do
  let (value, phrase) ← captured reader
  if !phrase.isEmpty then emit [.part turn phrase]
  return value

/-- Runs a reader that also tells whether what it reads stays raw.  Raw tokens are kept as the
    source has them, and no path is seen in them. -/
def rawWhen {α : Type} (reader : Reader (α × Bool)) : Reader α := do
  let before ← upcoming
  let ((value, isRaw), phrase) ← captured reader
  let consumed := before.length - (← upcoming).length
  emit (if isRaw then (before.take consumed).map .token else phrase)
  return value

/-- Runs a reader that tells whether what it reads stays raw. -/
def rawIf (reader : Reader Bool) : Reader Unit :=
  rawWhen do return ((), ← reader)

def raw {α : Type} (reader : Reader α) : Reader α :=
  rawWhen do return (← reader, true)

/-- Runs a reader on trees of their own, all of which it must read. -/
def within {α : Type} (trees : List TokenTree) (reader : Reader α) : Reader (α × Phrase) :=
  match reader.run { rest := trees } with
  | some (value, cursor) =>
    if cursor.rest.isEmpty then pure (value, cursor.read.reverse) else failure
  | none => failure

/-! ## Single tokens -/

def op (text : String) : Reader Unit := do
  let trees ← upcoming
  if Ahead.op text trees then
    advance (trees.drop text.length) ((operatorTokens text.toList).map .token)
  else
    failure

/-- Reads an operator if it comes next, and tells whether it did. -/
def op? (text : String) : Reader Bool := do
  if ← ahead (Ahead.op text) then op text; return true else return false

/-- Reads a word that satisfies `p`. -/
def wordWith (p : String → Bool) : Reader String := do
  match ← upcoming with
  | .word text :: rest =>
    if p text then advance rest [.token (.word text)]; return text else failure
  | _ => failure

def word (text : String) : Reader Unit := do
  let _ ← wordWith (· == text)

/-- Reads the given word if it comes next, and tells whether it did. -/
def word? (text : String) : Reader Bool := do
  if ← ahead (Ahead.word text) then word text; return true else return false

def ident : Reader String :=
  wordWith (!Ahead.isReserved ·)

def anyIdent : Reader String :=
  wordWith fun _ => true

def lifetime : Reader Unit := do
  match ← upcoming with
  | .punct '\'' _ :: .word text :: rest =>
    advance rest [.token (.punct '\'' true), .token (.word text)]
  | _ => failure

def literal : Reader Unit := do
  match ← upcoming with
  | .literal text :: rest => advance rest [.token (.literal text)]
  | .word text :: rest =>
    if text == "true" || text == "false" then advance rest [.token (.word text)] else failure
  | .punct '-' _ :: .literal text :: rest =>
    if Ahead.isNumber text then
      advance rest [.token (.punct '-' false), .token (.literal text)]
    else failure
  | _ => failure

/-! ## Groups -/

/-- Reads a group with the given delimiter, whose trees `reader` must read to the end. -/
def group {α : Type} (delimiter : Delimiter) (reader : Reader α) : Reader α := do
  match ← upcoming with
  | .group found inner :: rest =>
    if found == delimiter then
      let (value, phrase) ← within inner reader
      advance rest [.group delimiter phrase]
      return value
    else failure
  | _ => failure

/-- Reads a group of any tokens, as macros have it, and answers its delimiter. -/
def rawGroup : Reader (Delimiter × List TokenTree) := do
  match ← upcoming with
  | .group delimiter inner :: rest =>
    advance rest [.token (.group delimiter inner)]
    return (delimiter, inner)
  | _ => failure

/-! ## Repetition -/

/-- Repeats `step` while it answers `true`, at most `bound` times. -/
def repeatWithin (step : Reader Bool) : Nat → Reader Unit
  | 0 => failure
  | bound + 1 => do
    if ← step then repeatWithin step bound

/-- Repeats `step` while it answers `true`.  Every such step must read something. -/
def repeatedly (step : Reader Bool) : Reader Unit := do
  repeatWithin step ((← upcoming).length + 1)

/-- Collects elements until `stop` holds of the trees to come, with `separator` between them and
    perhaps behind the last.  At most `bound` elements are read.  Answers the elements and
    whether a separator followed the last one. -/
def listWithin {α : Type} (separator : String) (stop : List TokenTree → Bool)
    (element : Reader α) : Nat → Reader (List α × Bool)
  | 0 => failure
  | bound + 1 => do
    if ← ahead stop then return ([], true)
    let first ← element
    if ← ahead stop then return ([first], false)
    op separator
    let (others, trailing) ← listWithin separator stop element bound
    return (first :: others, trailing)

/-- Collects elements separated by `separator` until `stop` holds. -/
def listOf {α : Type} (separator : String) (stop : List TokenTree → Bool)
    (element : Reader α) : Reader (List α × Bool) := do
  listWithin separator stop element ((← upcoming).length + 1)

/-- Reads elements separated by commas, up to the end of the trees. -/
def commaList {α : Type} (element : Reader α) : Reader (List α × Bool) :=
  listOf "," List.isEmpty element

end Reader
end FieldDelta.Syntax
