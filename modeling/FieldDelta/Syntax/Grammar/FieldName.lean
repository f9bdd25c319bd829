import FieldDelta.Syntax.Lexer
import FieldDelta.Syntax.Reader

/-! # Names of fields

A field is named by an identifier, or by its index in a tuple.  An index may be written in any
base and with underscores; it is spelled in decimal.

* `fieldIndex?` — the index that a literal stands for;
* `Grammar.fieldName` — the name of a field.
-/

namespace FieldDelta.Syntax

/-- The number that digits stand for, behind those whose value is `value`.  Underscores are
    skipped. -/
def digitsValue? (base value : Nat) : List Char → Option Nat
  | [] => some value
  | '_' :: rest => digitsValue? base value rest
  | c :: rest =>
    match (Lexer.hexValue? c).filter (· < base) with
    | some digit => digitsValue? base (value * base + digit) rest
    | none => none

/-- The number that a literal without suffix stands for. -/
def numberValue? : List Char → Option Nat
  | '0' :: 'x' :: digits => digitsValue? 16 0 digits
  | '0' :: 'o' :: digits => digitsValue? 8 0 digits
  | '0' :: 'b' :: digits => digitsValue? 2 0 digits
  | c :: digits => if c.isDigit then digitsValue? 10 0 (c :: digits) else none
  | [] => none

/-- The index that a literal stands for.  It has 32 bits. -/
def fieldIndex? (literal : List Char) : Option Nat :=
  (numberValue? literal).filter (· < 4294967296)

namespace Grammar

open Reader

def indexToken (index : Nat) : Fragment :=
  .token (.literal (toString index))

/-- The name of a field.  Answers whether it is an identifier. -/
def fieldName : Reader Bool := do
  match ← upcoming with
  | .literal text :: rest =>
    match fieldIndex? text.toList with
    | some index =>
      advance rest [indexToken index]
      return false
    | none => failure
  | _ =>
    let _ ← ident
    return true

end Grammar
end FieldDelta.Syntax
