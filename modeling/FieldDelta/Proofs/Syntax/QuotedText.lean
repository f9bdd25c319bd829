import FieldDelta.Proofs.Syntax.Lexemes
import FieldDelta.Syntax.Literal

/-! # Quoted text is a literal

A text in quotes is one token of source text, and the value of that token is the text again.  Both
readers go through the written forms of the characters one by one: the lexer, which seeks the end of
the literal, and the reader of values.

* `Lexer.standsFree_quote`, `tokenize?_quote` — a quoted text is read as one literal;
* `Literal.stringValue?_quote` — whose value is what was quoted.
-/

namespace FieldDelta.Syntax

/-- Every character is written with one character at least. -/
theorem length_le_escape (text : List Char) : text.length ≤ (Text.escape text).length := by
  induction text with
  | nil => simp
  | cons c rest ih =>
    have h_form := List.length_pos_iff.mpr (Text.escapeChar_ne_nil c)
    simp only [Text.escape, List.flatMap_cons, List.length_append, List.length_cons] at ih ⊢
    omega

theorem toList_quote (text : String) :
    (Text.quote text).toList = '"' :: (Text.escape text.toList ++ ['"']) := by
  simp [Text.quote]

/-! ## The end of the literal -/

namespace Lexer

theorem afterCooked?_escape (text : List Char) (steps : Nat) (behind : List Char) :
    afterCooked? .text (text.length + steps) (Text.escape text ++ behind) =
      afterCooked? .text steps behind := by
  induction text with
  | nil => simp [Text.escape]
  | cons c rest ih =>
    have h_escape : Text.escape (c :: rest) = Text.escapeChar '"' c ++ Text.escape rest := by
      simp [Text.escape]
    rw [h_escape, List.append_assoc, List.length_cons, Nat.add_right_comm, afterCooked?_escapeChar,
      ih]

/-- A quoted text is read back as one literal. -/
theorem standsFree_quote (text : String) : StandsFree (.literal (Text.quote text)) := by
  have h_steps := length_le_escape text.toList
  have h_string : afterString? ('"' :: (Text.escape text.toList ++ ['"'])) = some [] := by
    have h_length : ('"' :: (Text.escape text.toList ++ ['"'])).length =
        text.toList.length + ((Text.escape text.toList).length - text.toList.length + 1 + 1) := by
      simp only [List.length_cons, List.length_append, List.length_nil]
      omega
    rw [afterString?]
    simp only [h_length, afterCooked?_escape]
    rfl
  have h_literal : afterLiteral? ('"' :: Text.escape text.toList ++ ['"']) = some [] := by
    rw [List.cons_append, afterLiteral?, h_string, Option.some_or]
  have h_free := standsFree_literal h_literal
  rwa [← List.append_nil (_ ++ _), taken_append] at h_free

end Lexer

open Lexer

/-- What is read first, where the text begins with no blank and no comment. -/
theorem Lexer.scan?_of_read {c : Char} {rest behind : List Char} {found : List Lexeme}
    (h_c : isSeparator c = false) (h_slash : c ≠ '/')
    (h_read : lexemes? (c :: rest) = some (found, behind)) (steps : Nat) :
    scan? (steps + 1) (c :: rest) = (scan? steps behind).map (found ++ ·) := by
  have h_blanks : skipBlanks (c :: rest) = c :: rest :=
    skipBlanks_eq h_c fun h_eq => absurd h_eq h_slash
  simp [scan?, h_blanks, h_read]

theorem Lexer.scan?_nil (steps : Nat) : scan? (steps + 1) [] = some [] := by
  simp [scan?, skipBlanks, skipBlanksWithin, startsLineComment, startsBlockComment, startsWith]

theorem tokenize?_quote (text : String) :
    tokenize? (Text.quote text) = some [.literal (Text.quote text)] := by
  have h_read : lexemes? ('"' :: (Text.escape text.toList ++ ['"'])) =
      some ([.tree (.literal (Text.quote text))], []) := by
    simpa [TokenTree.chars, toList_quote] using (standsFree_quote text).reads [] trivial
  have h_mark : withoutByteOrderMark (Text.quote text).toList =
      '"' :: (Text.escape text.toList ++ ['"']) := by
    rw [toList_quote]
    rfl
  rw [tokenize?, trees?, h_mark, List.length_cons, scan?_of_read (by decide) (by decide) h_read,
    scan?_nil]
  rfl

/-! ## Its value -/

namespace Literal

/-- A written form stands for the character that it was made from. -/
theorem cookedText_escapeChar (c : Char) (steps : Nat) (behind : List Char) :
    cookedText (steps + 1) (Text.escapeChar '"' c ++ behind) = c :: cookedText steps behind := by
  rcases Text.escapeChar_cases c with ⟨letter, h_letter, h_form⟩ | h_form | ⟨h_backslash, -, h_form⟩
  · rw [h_form]
    simp only [Text.letters, List.mem_cons, Prod.mk.injEq, List.not_mem_nil, or_false] at h_letter
    rcases h_letter with ⟨rfl, rfl⟩ | ⟨rfl, rfl⟩ | ⟨rfl, rfl⟩ | ⟨rfl, rfl⟩ | ⟨rfl, rfl⟩ |
      ⟨rfl, rfl⟩ <;> rfl
  · -- The brace behind the digits ends the code point, whatever follows.
    have h_point := escaped?_escapeCodePoint c behind
    simp [h_form, Text.escapeCodePoint, cookedText, h_point]
  · -- What is written as itself begins neither an escape nor a line break.
    have h_quote : c ≠ '"' := by
      rintro rfl
      cases h_form
    have h_return : c ≠ '\r' := by
      rintro rfl
      cases h_form
    rw [h_form, List.singleton_append, cookedText]
    · exact h_quote
    · exact fun _ h_eq => absurd h_eq h_return
    · exact fun _ h_eq => absurd h_eq h_backslash
    · exact fun _ h_eq => absurd h_eq h_backslash
    · exact h_backslash

theorem cookedText_escape (text : List Char) (steps : Nat) (behind : List Char) :
    cookedText (text.length + steps) (Text.escape text ++ behind) =
      text ++ cookedText steps behind := by
  induction text with
  | nil => simp [Text.escape]
  | cons c rest ih =>
    have h_escape : Text.escape (c :: rest) = Text.escapeChar '"' c ++ Text.escape rest := by
      simp [Text.escape]
    rw [h_escape, List.append_assoc, List.length_cons, Nat.add_right_comm, cookedText_escapeChar,
      ih, List.cons_append]

/-- The value of a quoted text is the text. -/
theorem stringValue?_quote (text : String) : stringValue? (Text.quote text) = some text := by
  have h_steps := length_le_escape text.toList
  have h_length : (Text.escape text.toList ++ ['"']).length + 1 =
      text.toList.length + ((Text.escape text.toList).length - text.toList.length + 1 + 1) := by
    simp only [List.length_append, List.length_cons, List.length_nil]
    omega
  rw [stringValue?, toList_quote]
  simp only [h_length, cookedText_escape]
  simp [cookedText]

end Literal
end FieldDelta.Syntax
