import FieldDelta.Syntax.Lexer

/-! # Values of literals

What a literal token stands for, as far as arguments of attributes are read: the text of a
string, a truth value, or some other value that is not looked into.
-/

namespace FieldDelta.Syntax

/-- A literal's value. -/
inductive Literal where
  | string (value : String)
  | truth (value : Bool)
  /-- A number, a character, or bytes. -/
  | other
deriving DecidableEq, Repr

namespace Literal

/-- The text between the quotes of a string with escapes, in at most `steps` steps.  A line break
    is a line feed, and a backslash before one drops the white space behind it. -/
def cookedText : Nat → List Char → List Char
  | 0, _ => []
  | steps + 1, cs =>
    match cs with
    | [] => []
    | '"' :: _ => []
    | '\r' :: '\n' :: rest => '\n' :: cookedText steps rest
    | '\\' :: '\n' :: rest => cookedText steps (rest.dropWhile Text.isBlank)
    | '\\' :: '\r' :: rest => cookedText steps (rest.dropWhile Text.isBlank)
    | '\\' :: rest =>
      match Lexer.escaped? .text rest with
      | some (value, rest) => Char.ofNat value :: cookedText steps rest
      | none => []
    | c :: rest => c :: cookedText steps rest

/-- The text of a raw string's body, which ends at a quote with `hashes` after it. -/
def rawText (hashes : List Char) : List Char → List Char
  | [] => []
  | c :: rest => if c = '"' ∧ hashes.isPrefixOf rest then [] else c :: rawText hashes rest

def stringValue? (literal : String) : Option String :=
  match literal.toList with
  | '"' :: rest => some (String.ofList (cookedText (rest.length + 1) rest))
  | 'r' :: rest =>
    let hashes := rest.takeWhile (· == '#')
    some (String.ofList (rawText hashes ((rest.drop hashes.length).drop 1)))
  | _ => none

def ofText (literal : String) : Literal :=
  match stringValue? literal with
  | some value => .string value
  | none => .other

end Literal
end FieldDelta.Syntax
