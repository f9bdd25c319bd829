import FieldDelta.Syntax.Lexer
import FieldDelta.Syntax.Grammar.Item

/-! # Parsing source text

The rules of the grammar are tied together level by level: `Rules.upTo n` reads what nests at
most `n` deep.  Two levels of nesting take up at least one token, so three times the number of
tokens is always deep enough.

* `parseFile?` — the items of a source file;
* `parseItem?` — one item;
* `parseType?`, `parsePath?` — a type and a path.

All of them answer `none` for a text that is not what they read.
-/

namespace FieldDelta.Syntax

/-- Rules for what nests one level deeper than the given rules reach. -/
def Rules.deeper (rules : Rules) : Rules where
  typeForm := Grammar.type rules
  bound := Grammar.bound rules
  patternForm := Grammar.pattern rules
  expression := Grammar.expression rules
  operand := Grammar.operand rules
  block := Grammar.block rules
  item := Grammar.item rules

/-- Rules for what nests at most `depth` levels deep. -/
def Rules.upTo : Nat → Rules
  | 0 => Rules.none
  | depth + 1 => (Rules.upTo depth).deeper

/-- Rules that reach deep enough for the given trees. -/
def Rules.for (trees : List TokenTree) : Rules :=
  Rules.upTo (3 * TokenTree.sizeOfList trees + 8)

def read? {α : Type} (reader : Rules → Reader α) (trees : List TokenTree) : Option α :=
  match (reader (Rules.for trees)).run { rest := trees } with
  | some (value, cursor) => if cursor.rest.isEmpty then some value else none
  | none => none

def parse? {α : Type} (reader : Rules → Reader α) (text : String) : Option α :=
  (tokenize? text).bind (read? reader)

/-- The items of a file, behind its inner attributes. -/
def Grammar.file (rules : Rules) : Reader (List Item) := do
  let _ ← Grammar.innerAttributes rules
  Grammar.items rules

/-- A text without the first line, if that line names an interpreter.  A `#!` that begins an
    attribute does not. -/
def withoutInterpreter (cs : List Char) : List Char :=
  match cs with
  | '#' :: '!' :: rest =>
    match Lexer.skipBlanks rest with
    | '[' :: _ => cs
    | _ => cs.dropWhile (· != '\n')
  | _ => cs

def parseFile? (text : String) : Option (List Item) :=
  let cs := withoutInterpreter (Lexer.withoutByteOrderMark text.toList)
  (Lexer.trees? cs).bind (read? Grammar.file)

def parseItem? (text : String) : Option Item :=
  parse? Grammar.item text

def parseItems? (text : String) : Option (List Item) :=
  parse? Grammar.file text

def parseType? (text : String) : Option Phrase :=
  parse? (fun rules => Reader.phraseOf do let _ ← Grammar.type rules true) text

def parsePath? (text : String) : Option Path :=
  parse? (fun rules => Grammar.barePath rules .type) text

end FieldDelta.Syntax
