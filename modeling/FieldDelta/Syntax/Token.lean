/-! # Tokens and their text

Source text is a sequence of token trees: words, punctuation characters, literals, and groups
of token trees between matching delimiters.  A lifetime is a joint `'` followed by a word.

A punctuation character is *joint* when it belongs together with the character after it, as
the first character of `->` does.  Printing puts one space between tokens and none after a
joint character.

* `TokenTree` — the trees;
* `TokenTree.charsOfList` — their text.
-/

namespace FieldDelta.Syntax

/-- The three kinds of brackets around a group. -/
inductive Delimiter where
  | paren
  | bracket
  | brace
deriving DecidableEq, Repr

namespace Delimiter

def opening : Delimiter → Char
  | paren => '('
  | bracket => '['
  | brace => '\x7b'

def closing : Delimiter → Char
  | paren => ')'
  | bracket => ']'
  | brace => '\x7d'

/-- The delimiter that `c` opens, if it opens one. -/
def ofOpening? (c : Char) : Option Delimiter :=
  if c = '(' then some paren
  else if c = '[' then some bracket
  else if c = '\x7b' then some brace
  else none

/-- The delimiter that `c` closes, if it closes one. -/
def ofClosing? (c : Char) : Option Delimiter :=
  if c = ')' then some paren
  else if c = ']' then some bracket
  else if c = '\x7d' then some brace
  else none

/-- Puts a group's text between its delimiters.  Braces stand apart from what they hold; the
    other two stand close to it. -/
def wrap (delimiter : Delimiter) (inner : List Char) : List Char :=
  match delimiter with
  | brace => if inner.isEmpty then "\x7b \x7d".toList else "\x7b ".toList ++ inner ++ " \x7d".toList
  | _ => delimiter.opening :: inner ++ [delimiter.closing]

end Delimiter

/-- A token, or a group of tokens between delimiters. -/
inductive TokenTree where
  /-- An identifier or keyword, with `r#` when it is raw. -/
  | word (text : String)
  /-- A punctuation character, and whether the next one belongs to it. -/
  | punct (char : Char) (joint : Bool)
  /-- A literal as it is written in the source. -/
  | literal (text : String)
  | group (delimiter : Delimiter) (inner : List TokenTree)
deriving Repr

namespace TokenTree

/-- Whether nothing is printed between this token and the next. -/
def isJoint : TokenTree → Bool
  | punct _ joint => joint
  | _ => false

mutual

/-- The number of tokens, a pair of delimiters counted as one. -/
def size : TokenTree → Nat
  | group _ inner => sizeOfList inner + 1
  | _ => 1

def sizeOfList : List TokenTree → Nat
  | [] => 0
  | tree :: rest => tree.size + sizeOfList rest

end

mutual

def chars : TokenTree → List Char
  | word text => text.toList
  | punct char _ => [char]
  | literal text => text.toList
  | group delimiter inner => delimiter.wrap (charsOfList inner)

/-- The text of a sequence of token trees: one space between two of them, except after a joint
    punctuation character. -/
def charsOfList : List TokenTree → List Char
  | [] => []
  | tree :: rest =>
    match rest with
    | [] => tree.chars
    | _ :: _ => tree.chars ++ (if tree.isJoint then [] else [' ']) ++ charsOfList rest

end

end TokenTree

def tokenText (tokens : List TokenTree) : String :=
  String.ofList (TokenTree.charsOfList tokens)

end FieldDelta.Syntax
