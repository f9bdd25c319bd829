import FieldDelta.Unicode.Printable

/-! # Quoted text

A quoted text stands between double quotes on one line.  `escapeChar` says how one character
is written there: quotes and backslashes after a backslash, the usual control characters as
letters, and every other character that has no visible form of its own as `\u{…}` with its
code point in hexadecimal.

* `quote` — a text in double quotes;
* `quoteChar` — a character in single quotes, where it is the single quote that needs a
  backslash.
-/

namespace FieldDelta.Text

/-- The hexadecimal digits of `n`, lower case and without leading zeros. -/
def hexDigits (n : Nat) : List Char :=
  Nat.toDigits 16 n

def escapeCodePoint (c : Char) : List Char :=
  ['\\', 'u', '\x7b'] ++ hexDigits c.toNat ++ ['\x7d']

/-- The written form of a character inside quotes; `delimiter` is the quote in use. -/
def escapeChar (delimiter c : Char) : List Char :=
  if c = delimiter then ['\\', c]
  else if c = '\\' then ['\\', '\\']
  else if c = '\n' then ['\\', 'n']
  else if c = '\t' then ['\\', 't']
  else if c = '\r' then ['\\', 'r']
  else if c = '\x00' then ['\\', '0']
  else if Unicode.isAttached c || !Unicode.isPrintable c then escapeCodePoint c
  else [c]

/-- The written form of a text, without the quotes around it. -/
def escape (cs : List Char) : List Char :=
  cs.flatMap (escapeChar '"')

def quote (text : String) : String :=
  String.ofList ('"' :: escape text.toList ++ ['"'])

def quoteChar (c : Char) : String :=
  String.ofList ('\'' :: escapeChar '\'' c ++ ['\''])

end FieldDelta.Text
