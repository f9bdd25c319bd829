import FieldDelta.Syntax.Token
import FieldDelta.Text.Quoted
import FieldDelta.Text.Substitution
import FieldDelta.Unicode.Identifier

/-! # From source text to token trees

`tokenize?` reads a text into token trees; it answers `none` when the text holds something that
is no token, an unfinished literal or comment, or delimiters that do not match.

The module goes from small to large:

* comments and white space, which separate tokens and are dropped;
* identifiers, and literals with their escapes;
* punctuation, with the rule for jointness;
* documentation comments, which stand for attributes;
* lexemes, and the nesting of lexemes into groups.

Functions named `after…?` answer what is left of the text behind the thing they are named for.
Loops that advance by more than one character carry a bound on their number of steps, which
the length of the text provides.
-/

namespace FieldDelta.Syntax.Lexer

open FieldDelta.Text (isBlank)
open FieldDelta.Unicode (isIdentifierStart isIdentifierContinue)

/-- The text behind `mark`, if the text begins with it. -/
def after? (mark : String) (cs : List Char) : Option (List Char) :=
  if mark.toList.isPrefixOf cs then some (cs.drop mark.length) else none

/-- Whether the text begins with `mark`. -/
def startsWith (mark : String) (cs : List Char) : Bool :=
  mark.toList.isPrefixOf cs

/-- What was read, when `rest` is left of `cs`. -/
def taken (cs rest : List Char) : List Char :=
  cs.take (cs.length - rest.length)

/-! ## Comments and white space -/

/-- The text before the end of the line, and the text from the line feed on. -/
def splitLine : List Char → List Char × List Char
  | [] => ([], [])
  | '\n' :: rest => ([], '\n' :: rest)
  | '\r' :: '\n' :: rest => ([], '\n' :: rest)
  | c :: rest => ((splitLine rest).1.cons c, (splitLine rest).2)

/-- The text behind a block comment whose opening mark is already read.  `depth` counts the
    comments inside it that are still open. -/
def afterBlock? (depth : Nat) : List Char → Option (List Char)
  | '/' :: '*' :: rest => afterBlock? (depth + 1) rest
  | '*' :: '/' :: rest =>
    match depth with
    | 0 => some rest
    | outer + 1 => afterBlock? outer rest
  | _ :: rest => afterBlock? depth rest
  | [] => none

/-- Whether the text begins with a line comment that is no documentation. -/
def startsLineComment (cs : List Char) : Bool :=
  startsWith "//" cs && (!startsWith "///" cs || startsWith "////" cs) && !startsWith "//!" cs

/-- Whether the text begins with a block comment that is no documentation. -/
def startsBlockComment (cs : List Char) : Bool :=
  startsWith "/**/" cs
    || (startsWith "/*" cs && (!startsWith "/**" cs || startsWith "/***" cs)
        && !startsWith "/*!" cs)

/-- Whether `c` separates tokens: white space, or a mark of writing direction. -/
def isSeparator (c : Char) : Bool :=
  isBlank c || c == '\u200e' || c == '\u200f'

/-- Skips white space and comments, in at most `steps` steps. -/
def skipBlanksWithin : Nat → List Char → List Char
  | 0, cs => cs
  | steps + 1, cs =>
    if startsLineComment cs then skipBlanksWithin steps (splitLine cs).2
    else if startsBlockComment cs then
      match afterBlock? 0 (cs.drop 2) with
      | some rest => skipBlanksWithin steps rest
      | none => cs
    else
      match cs with
      | c :: rest => if isSeparator c then skipBlanksWithin steps rest else cs
      | [] => []

/-- Skips white space and comments. -/
def skipBlanks (cs : List Char) : List Char :=
  skipBlanksWithin (cs.length + 1) cs

/-! ## Identifiers -/

/-- The text behind an identifier without raw mark. -/
def afterName? : List Char → Option (List Char)
  | [] => none
  | c :: rest => if isIdentifierStart c then some (rest.dropWhile isIdentifierContinue) else none

/-- The text behind an identifier, raw or not.  The underscore and the keywords of paths have no
    raw form. -/
def afterIdentifier? (cs : List Char) : Option (List Char) :=
  match after? "r#" cs with
  | none => afterName? cs
  | some name =>
    match afterName? name with
    | none => none
    | some rest =>
      if ["_", "super", "self", "Self", "crate"].contains (String.ofList (taken name rest)) then
        none
      else some rest

def literalMarks : List String :=
  ["r\"", "r#\"", "r##", "b\"", "b'", "br\"", "br#", "c\"", "cr\"", "cr#"]

/-- The text behind a word: an identifier that does not look like the beginning of a literal. -/
def afterWord? (cs : List Char) : Option (List Char) :=
  if literalMarks.any (startsWith · cs) then none else afterIdentifier? cs

/-- The text behind the suffix of a literal, which may be empty. -/
def afterSuffix (cs : List Char) : List Char :=
  (afterName? cs).getD cs

/-! ## Escapes -/

/-- What the contents of a string or character literal stand for. -/
inductive Alphabet where
  /-- Characters. -/
  | text
  /-- Bytes. -/
  | bytes
  /-- Characters without the zero character. -/
  | zeroTerminated
deriving DecidableEq, Repr

def hexValue? (c : Char) : Option Nat :=
  if c.isDigit then some (c.toNat - '0'.toNat)
  else if 'a' ≤ c ∧ c ≤ 'f' then some (c.toNat - 'a'.toNat + 10)
  else if 'A' ≤ c ∧ c ≤ 'F' then some (c.toNat - 'A'.toNat + 10)
  else none

/-- The code point `\u{…}` stands for, and the text behind it.  `digits` counts the digits read,
    of which there may be six; underscores may follow the first. -/
def codePoint? (value digits : Nat) : List Char → Option (Nat × List Char)
  | [] => none
  | c :: rest =>
    match hexValue? c with
    | some digit =>
      if digits = 6 then none else codePoint? (value * 16 + digit) (digits + 1) rest
    | none =>
      if digits = 0 then none
      else if c = '_' then codePoint? value digits rest
      else if c = '\x7d' ∧ Nat.isValidChar value then some (value, rest)
      else none

/-- The character that an escape stands for, and the text behind it.  The backslash is already
    read. -/
def escaped? (alphabet : Alphabet) : List Char → Option (Nat × List Char)
  | 'x' :: high :: low :: rest =>
    match hexValue? high, hexValue? low with
    | some h, some l =>
      let value := h * 16 + l
      match alphabet with
      | .text => if h < 8 then some (value, rest) else none
      | .bytes => some (value, rest)
      | .zeroTerminated => if value = 0 then none else some (value, rest)
    | _, _ => none
  | 'u' :: '\x7b' :: rest =>
    match alphabet, codePoint? 0 0 rest with
    | .bytes, _ => none
    | .zeroTerminated, some (0, _) => none
    | _, found => found
  | 'n' :: rest => some (0x0A, rest)
  | 'r' :: rest => some (0x0D, rest)
  | 't' :: rest => some (0x09, rest)
  | '\\' :: rest => some (0x5C, rest)
  | '\'' :: rest => some (0x27, rest)
  | '"' :: rest => some (0x22, rest)
  | '0' :: rest => if alphabet = .zeroTerminated then none else some (0, rest)
  | _ => none

/-- Skips the white space that a backslash at the end of a line suppresses.  A carriage return
    must be followed by a line feed, and something must follow the white space. -/
def afterContinuation? : List Char → Option (List Char)
  | '\r' :: '\n' :: rest => afterContinuation? rest
  | '\r' :: _ => none
  | ' ' :: rest => afterContinuation? rest
  | '\t' :: rest => afterContinuation? rest
  | '\n' :: rest => afterContinuation? rest
  | [] => none
  | cs => some cs

/-! ## String literals -/

/-- Whether `c` may stand for itself in a literal. -/
def Alphabet.admits (alphabet : Alphabet) (c : Char) : Bool :=
  match alphabet with
  | .text => true
  | .bytes => c.toNat < 0x80
  | .zeroTerminated => c != '\x00'

/-- The text behind a string with escapes; the quote in front is already read. -/
def afterCooked? (alphabet : Alphabet) : Nat → List Char → Option (List Char)
  | 0, _ => none
  | steps + 1, cs =>
    match cs with
    | [] => none
    | '"' :: rest => some (afterSuffix rest)
    | '\r' :: '\n' :: rest => afterCooked? alphabet steps rest
    | '\r' :: _ => none
    | '\\' :: rest =>
      match rest with
      | '\n' :: _ => (afterContinuation? rest).bind (afterCooked? alphabet steps)
      | '\r' :: _ => (afterContinuation? rest).bind (afterCooked? alphabet steps)
      | _ => (escaped? alphabet rest).bind fun (_, rest) => afterCooked? alphabet steps rest
    | c :: rest => if alphabet.admits c then afterCooked? alphabet steps rest else none

/-- The text behind the body of a raw string, which ends at a quote with `hashes` after it. -/
def afterRawBody? (alphabet : Alphabet) (hashes : List Char) : List Char → Option (List Char)
  | [] => none
  | '"' :: rest =>
    if hashes.isPrefixOf rest then some (afterSuffix (rest.drop hashes.length))
    else afterRawBody? alphabet hashes rest
  | '\r' :: '\n' :: rest => afterRawBody? alphabet hashes rest
  | '\r' :: _ => none
  | c :: rest => if alphabet.admits c then afterRawBody? alphabet hashes rest else none

/-- The text behind a raw string; the `r` in front is already read.  At most 255 hashes may
    stand before the quote. -/
def afterRaw? (alphabet : Alphabet) (cs : List Char) : Option (List Char) :=
  let hashes := cs.takeWhile (· == '#')
  match cs.drop hashes.length with
  | '"' :: body => if hashes.length ≤ 255 then afterRawBody? alphabet hashes body else none
  | _ => none

/-- The text behind a string literal of any kind. -/
def afterString? (cs : List Char) : Option (List Char) :=
  let steps := cs.length
  match cs with
  | '"' :: rest => afterCooked? .text steps rest
  | 'r' :: rest => afterRaw? .text rest
  | 'b' :: '"' :: rest => afterCooked? .bytes steps rest
  | 'b' :: 'r' :: rest => afterRaw? .bytes rest
  | 'c' :: '"' :: rest => afterCooked? .zeroTerminated steps rest
  | 'c' :: 'r' :: rest => afterRaw? .zeroTerminated rest
  | _ => none

/-! ## Character literals -/

/-- The text behind the closing quote of a character literal. -/
def afterClosingQuote? : List Char → Option (List Char)
  | '\'' :: rest => some (afterSuffix rest)
  | _ => none

/-- The text behind a character literal; the quote in front is already read. -/
def afterCharBody? (alphabet : Alphabet) : List Char → Option (List Char)
  | '\\' :: rest => (escaped? alphabet rest).bind fun (_, rest) => afterClosingQuote? rest
  | c :: rest =>
    if alphabet = .bytes ∧ 0x80 ≤ c.toNat then none else afterClosingQuote? rest
  | [] => none

/-- The text behind a character or byte literal. -/
def afterCharacter? : List Char → Option (List Char)
  | 'b' :: '\'' :: rest => afterCharBody? .bytes rest
  | '\'' :: rest => afterCharBody? .text rest
  | _ => none

/-! ## Number literals -/

/-- The text itself, unless an identifier character begins it. -/
def wordEnd? (cs : List Char) : Option (List Char) :=
  match cs with
  | c :: _ => if isIdentifierContinue c then none else some cs
  | [] => some []

/-- The text behind a number's suffix, where the number must end. -/
def afterNumberSuffix? (cs : List Char) : Option (List Char) :=
  wordEnd? (afterSuffix cs)

/-- Whether `c` goes on with a run of decimal digits. -/
def isDigitOrUnderscore (c : Char) : Bool :=
  c.isDigit || c == '_'

/-- The text behind an exponent; the letter in front is already read.  It may have one sign and
    must have a digit, and underscores may stand anywhere. -/
def afterExponent? (cs : List Char) : Option (List Char) :=
  let unsigned := match cs.dropWhile (· == '_') with
    | '+' :: rest => rest
    | '-' :: rest => rest
    | rest => rest
  let rest := unsigned.dropWhile isDigitOrUnderscore
  if (taken unsigned rest).any Char.isDigit then some rest else none

/-- The text behind the digits of a floating point number.  `fraction?` is what follows the
    point, if there is one; an exponent that is none ends the number before its letter, which
    only a number with a point allows. -/
def afterFloatTail? (pointed : Bool) (cs : List Char) : Option (List Char) :=
  match cs with
  | 'e' :: rest => (afterExponent? rest).or (if pointed then some cs else none)
  | 'E' :: rest => (afterExponent? rest).or (if pointed then some cs else none)
  | _ => if pointed then some cs else none

/-- The text behind a floating point literal.  A point must not be followed by another point or
    by an identifier. -/
def afterFloat? (cs : List Char) : Option (List Char) :=
  match cs with
  | c :: _ =>
    if c.isDigit then
      let tail := match cs.dropWhile isDigitOrUnderscore with
        | '.' :: fraction =>
          match fraction with
          | d :: _ =>
            if d = '.' ∨ isIdentifierStart d then none
            else afterFloatTail? true (fraction.dropWhile isDigitOrUnderscore)
          | [] => some []
        | rest => afterFloatTail? false rest
      tail.bind afterNumberSuffix?
    else none
  | [] => none

/-- The text behind the digits of an integer in the given base.  `empty` says that no digit is
    read yet.  A decimal digit that the base lacks is refused; a letter that it lacks ends the
    number. -/
def afterDigits? (base : Nat) (empty : Bool) : List Char → Option (List Char)
  | [] => if empty then none else some []
  | c :: rest =>
    if c = '_' then
      if empty ∧ base = 10 then none else afterDigits? base empty rest
    else
      match hexValue? c with
      | some digit =>
        if digit < base then afterDigits? base false rest
        else if c.isDigit ∨ empty then none
        else some (c :: rest)
      | none => if empty then none else some (c :: rest)

/-- The text behind an integer literal. -/
def afterInteger? (cs : List Char) : Option (List Char) :=
  let digits := match cs with
    | '0' :: 'x' :: rest => afterDigits? 16 true rest
    | '0' :: 'o' :: rest => afterDigits? 8 true rest
    | '0' :: 'b' :: rest => afterDigits? 2 true rest
    | _ => afterDigits? 10 true cs
  digits.bind afterNumberSuffix?

/-- The text behind a literal of any kind. -/
def afterLiteral? (cs : List Char) : Option (List Char) :=
  (afterString? cs).or ((afterCharacter? cs).or ((afterFloat? cs).or (afterInteger? cs)))

/-! ## Punctuation -/

def punctuation : List Char :=
  "~!@#$%^&*-=+|;:,<.>/?'".toList

/-- Whether the text begins with punctuation.  A slash that begins a comment does not count. -/
def startsPunct : List Char → Bool
  | [] => false
  | c :: rest =>
    punctuation.contains c && !startsWith "//" (c :: rest) && !startsWith "/*" (c :: rest)

/-- A punctuation character and the text behind it.  It is joint when punctuation follows at
    once.  A quote is punctuation only in front of a lifetime, and always joint. -/
def punct? (cs : List Char) : Option (TokenTree × List Char) :=
  match cs with
  | '\'' :: rest =>
    match afterIdentifier? rest with
    | none => none
    | some behind =>
      if startsWith "'" behind || (startsWith "#" behind && !startsWith "r#" rest) then none
      else some (.punct '\'' true, rest)
  | c :: rest => if startsPunct cs then some (.punct c (startsPunct rest), rest) else none
  | [] => none

/-- A token that is no group, and the text behind it. -/
def leaf? (cs : List Char) : Option (TokenTree × List Char) :=
  match afterLiteral? cs with
  | some rest => some (.literal (String.ofList (taken cs rest)), rest)
  | none =>
    match punct? cs with
    | some found => some found
    | none => (afterWord? cs).map fun rest => (.word (String.ofList (taken cs rest)), rest)

/-! ## Documentation comments -/

/-- A documentation comment: whether it documents what is around it, its text, and the text
    behind it. -/
def docComment? (cs : List Char) : Option (Bool × List Char × List Char) :=
  let block (inner : Bool) := (afterBlock? 0 (cs.drop 2)).map fun rest =>
    (inner, ((taken cs rest).drop 3).dropLast.dropLast, rest)
  let line (inner : Bool) :=
    let (text, rest) := splitLine (cs.drop 3)
    some (inner, text, rest)
  if startsWith "//!" cs then line true
  else if startsWith "/*!" cs then block true
  else if startsWith "///" cs && !startsWith "////" cs then line false
  else if startsWith "/**" cs && !startsWith "/***" cs then block false
  else none

/-- Whether every carriage return is followed by a line feed. -/
def carriageReturnsPaired : List Char → Bool
  | [] => true
  | '\r' :: '\n' :: rest => carriageReturnsPaired rest
  | '\r' :: _ => false
  | _ :: rest => carriageReturnsPaired rest

/-- The documentation text as it stands in a string literal.  Single quotes stay as they are,
    and a zero in front of an octal digit is written with two digits. -/
def docLiteral : List Char → List Char
  | [] => []
  | '\x00' :: rest =>
    let octal := match rest with
      | d :: _ => decide ('0' ≤ d ∧ d ≤ '7')
      | [] => false
    (if octal then "\\x00".toList else "\\0".toList) ++ docLiteral rest
  | c :: rest => Text.escapeChar '"' c ++ docLiteral rest

/-- The attribute that a documentation comment stands for. -/
def docAttribute (inner : Bool) (text : List Char) : List TokenTree :=
  let literal := String.ofList ('"' :: docLiteral text ++ ['"'])
  [.punct '#' false] ++ (if inner then [.punct '!' false] else [])
    ++ [.group .bracket [.word "doc", .punct '=' false, .literal literal]]

/-! ## Lexemes and groups -/

/-- A piece of source text before groups are formed. -/
inductive Lexeme where
  | opening (delimiter : Delimiter)
  | closing (delimiter : Delimiter)
  | tree (token : TokenTree)

/-- The text that stands for a literal which could not be written.  It is a literal itself, and
    no group. -/
def missingLiteral : String :=
  "(/*ERROR*/)"

/-- The lexemes at the beginning of a text that does not begin with blanks, and the text behind
    them. -/
def lexemes? (cs : List Char) : Option (List Lexeme × List Char) :=
  match docComment? cs, after? missingLiteral cs with
  | some (inner, text, rest), _ =>
    if carriageReturnsPaired text then some ((docAttribute inner text).map .tree, rest) else none
  | none, some rest => some ([.tree (.literal missingLiteral)], rest)
  | none, none =>
    match cs with
    | [] => none
    | c :: rest =>
      match Delimiter.ofOpening? c, Delimiter.ofClosing? c with
      | some delimiter, _ => some ([.opening delimiter], rest)
      | none, some delimiter => some ([.closing delimiter], rest)
      | none, none => (leaf? cs).map fun (token, rest) => ([.tree token], rest)

/-- All lexemes of a text, read in at most `steps` steps. -/
def scan? : Nat → List Char → Option (List Lexeme)
  | 0, _ => none
  | steps + 1, cs =>
    match skipBlanks cs with
    | [] => some []
    | c :: rest =>
      match lexemes? (c :: rest) with
      | none => none
      | some (found, rest) => (scan? steps rest).map (found ++ ·)

/-- Forms groups.  `current` holds the trees of the innermost open group, last one first, and
    `outer` the groups around it with what was read of them. -/
def nest? (current : List TokenTree) (outer : List (Delimiter × List TokenTree)) :
    List Lexeme → Option (List TokenTree)
  | [] => if outer.isEmpty then some current.reverse else none
  | .tree token :: rest => nest? (token :: current) outer rest
  | .opening delimiter :: rest => nest? [] ((delimiter, current) :: outer) rest
  | .closing delimiter :: rest =>
    match outer with
    | [] => none
    | (opened, before) :: outer =>
      if opened = delimiter then nest? (.group delimiter current.reverse :: before) outer rest
      else none

/-- A text without the byte order mark in front of it, if there is one. -/
def withoutByteOrderMark : List Char → List Char
  | '\ufeff' :: rest => rest
  | cs => cs

def trees? (cs : List Char) : Option (List TokenTree) :=
  let cs := withoutByteOrderMark cs
  (scan? (cs.length + 1) cs).bind (nest? [] [])

end Lexer

/-- The token trees of a source text, or `none` if it is no sequence of tokens. -/
def tokenize? (text : String) : Option (List TokenTree) :=
  Lexer.trees? text.toList

end FieldDelta.Syntax
