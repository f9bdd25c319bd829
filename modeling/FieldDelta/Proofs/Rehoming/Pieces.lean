import FieldDelta.Proofs.Syntax.Lexemes
import FieldDelta.Text.Substitution

/-! # Text in pieces

The text of token trees is made up of pieces: words and literals, which are read as one, and single
characters between them.  As long as the pieces stay apart where they have to, the lexer reads them
back, with any blanks between them.

* `Piece` — the pieces, and the lexemes that they stand for;
* `Piece.Spaced` — pieces that stay apart;
* `Piece.exists_scan?` — they are read back;
* `Piece.exists_trim` — and so they are without the blanks around them.
-/

namespace FieldDelta.Syntax

open Lexer (Lexeme StandsFree FollowsQuote Stops Edged EndsLiteral stopMarks spacedMarks
  missingLiteral punctuation isSeparator)
open Text (isBlank)

/-- A piece of text: a single character, or what stands for a word or a literal. -/
inductive Piece where
  | mark (c : Char)
  | atom (tree : TokenTree) (text : List Char)

namespace Piece

/-! ## Pieces and what they stand for -/

def chars : Piece → List Char
  | mark c => [c]
  | atom _ text => text

def charsOf (pieces : List Piece) : List Char :=
  pieces.flatMap chars

/-- What is read where the piece stands; nothing is, if it is a space. -/
def lexeme? : Piece → Option Lexeme
  | mark c =>
    match Delimiter.ofOpening? c, Delimiter.ofClosing? c with
    | some delimiter, _ => some (.opening delimiter)
    | none, some delimiter => some (.closing delimiter)
    | none, none => if c = ' ' then none else some (.tree (.punct c false))
  | atom tree _ => some (.tree tree)

def lexemesOf (pieces : List Piece) : List Lexeme :=
  pieces.filterMap lexeme?

variable {pieces rest others : List Piece} {piece : Piece} {tree : TokenTree} {text : List Char}

@[simp] theorem charsOf_cons : charsOf (piece :: rest) = piece.chars ++ charsOf rest :=
  rfl

@[simp] theorem charsOf_append : charsOf (pieces ++ others) = charsOf pieces ++ charsOf others :=
  List.flatMap_append

@[simp] theorem lexemesOf_append :
    lexemesOf (pieces ++ others) = lexemesOf pieces ++ lexemesOf others :=
  List.filterMap_append

theorem lexemesOf_space : lexemesOf (mark ' ' :: rest) = lexemesOf rest :=
  rfl

/-- Words and literals have the text that they are written with. -/
def Exact (pieces : List Piece) : Prop :=
  ∀ tree text, atom tree text ∈ pieces → text = tree.chars

theorem Exact.tail (h_exact : Exact (piece :: rest)) : Exact rest :=
  fun tree text h_mem => h_exact tree text (.tail _ h_mem)

theorem Exact.head (h_exact : Exact (atom tree text :: rest)) : text = tree.chars :=
  h_exact tree text (.head _)

/-! ## Pieces that stay apart -/

/-- The brackets of groups. -/
def brackets : List Char :=
  ['(', '[', '\x7b', ')', ']', '\x7d']

/-- The text of a word or literal that substitution may have changed inside. -/
def Solid (text : List Char) : Prop :=
  text = missingLiteral.toList ∨ Edged text

/-- What may follow a piece directly. -/
def Admits : Piece → List Piece → Prop
  | mark c, rest =>
    c ∈ ' ' :: brackets ++ punctuation ∧
    (c = '\'' → ∃ tree text tail, rest = atom tree text :: tail ∧ FollowsQuote tree) ∧
    (c = '/' → ∀ d tail, rest = mark d :: tail → d ≠ '/' ∧ d ≠ '*')
  | atom tree text, rest =>
    tree.IsAtom ∧ StandsFree tree ∧ Solid text ∧
    ∀ next tail, rest = next :: tail → ∃ c ∈ stopMarks, next = mark c

/-- Pieces that stay apart where they have to. -/
def Spaced : List Piece → Prop
  | [] => True
  | piece :: rest => piece.Admits rest ∧ Spaced rest

/-! ## Reading pieces -/

theorem stops_charsOf (h_next : ∀ next tail, rest = next :: tail → ∃ c ∈ stopMarks, next = mark c) :
    Stops (charsOf rest) := by
  cases rest with
  | nil => trivial
  | cons next tail =>
    obtain ⟨c, h_c, rfl⟩ := h_next next tail rfl
    exact h_c

/-- No comment begins where pieces stay apart. -/
theorem Spaced.no_comment (h_spaced : Spaced pieces) (h_exact : Exact pieces) {d : Char}
    {tail : List Char} (h_chars : charsOf pieces = '/' :: d :: tail) : d ≠ '/' ∧ d ≠ '*' := by
  have h_first : ∀ tree text rest behind, Spaced (atom tree text :: rest) →
      Exact (atom tree text :: rest) → ∀ c, charsOf (atom tree text :: rest) = c :: behind →
        c ∉ ['/', '*', '\ufeff'] := by
    intro tree text rest behind h_spaced h_exact c h_chars
    obtain ⟨first, more, h_text, -, h_slash, -⟩ := h_spaced.1.2.1.first
    rw [charsOf_cons, Piece.chars, h_exact.head, h_text] at h_chars
    cases h_chars
    exact h_slash
  cases pieces with
  | nil => cases h_chars
  | cons piece rest =>
    cases piece with
    | atom tree text => exact absurd (by simp) (h_first _ _ _ _ h_spaced h_exact _ h_chars)
    | mark c =>
      cases (List.cons.inj h_chars).1
      have h_rest : charsOf rest = d :: tail := (List.cons.inj h_chars).2
      cases rest with
      | nil => cases h_rest
      | cons next more =>
        cases next with
        | mark e =>
          cases (List.cons.inj h_rest).1
          exact h_spaced.1.2.2 rfl d more rfl
        | atom tree text =>
          have h_d := h_first _ _ _ _ h_spaced.2 h_exact.tail _ h_rest
          simp only [List.mem_cons, List.not_mem_nil, or_false, not_or] at h_d
          exact ⟨h_d.1, h_d.2.1⟩

/-- Punctuation by itself is read as such. -/
theorem lexemes?_punct {c : Char} {cs : List Char} (h_c : c ∈ punctuation) (h_quote : c ≠ '\'')
    (h_slash : c = '/' → ∀ d tail, cs = d :: tail → d ≠ '/' ∧ d ≠ '*') :
    Lexer.lexemes? (c :: cs) = some ([.tree (.punct c (Lexer.startsPunct cs))], cs) := by
  have h_all : ∀ c ∈ punctuation, c ≠ '\'' → c ∉ ['"', 'r', 'b', 'c', '\''] ∧ c.isDigit = false ∧
      c ≠ '(' ∧ Delimiter.ofOpening? c = none ∧ Delimiter.ofClosing? c = none := by
    decide
  obtain ⟨h_begins, h_digit, h_paren, h_opening, h_closing⟩ := h_all c h_c h_quote
  have h_doc := Lexer.docComment?_eq_none h_slash
  have h_missing : Lexer.after? missingLiteral (c :: cs) = none := by
    simp [Lexer.after?, missingLiteral, Ne.symm h_paren]
  have h_literal : Lexer.afterLiteral? (c :: cs) = none := by
    refine Option.eq_none_iff_forall_ne_some.mpr fun rest h_some => ?_
    rcases Lexer.first_of_afterLiteral? h_some with ⟨-, h_mem⟩ | h_isDigit
    · exact h_begins h_mem
    · rw [h_digit] at h_isDigit
      cases h_isDigit
  have h_starts : Lexer.startsPunct (c :: cs) = true := by
    have h_line : Lexer.startsWith "//" (c :: cs) = false :=
      Lexer.not_startsWith_comment h_slash rfl (by decide)
    have h_block : Lexer.startsWith "/*" (c :: cs) = false :=
      Lexer.not_startsWith_comment h_slash rfl (by decide)
    rw [Lexer.startsPunct, List.contains_iff_mem.mpr h_c, h_line, h_block]
    rfl
  have h_punct : Lexer.punct? (c :: cs) = some (.punct c (Lexer.startsPunct cs), cs) := by
    rw [Lexer.punct?, if_pos h_starts]
    exact h_quote
  rw [Lexer.lexemes?, h_doc, h_missing]
  simp only [h_opening, h_closing, Lexer.leaf?, h_literal, h_punct, Option.map_some]

/-- A bracket is read as such if no literal begins with it. -/
theorem lexemes?_bracket {c : Char} {cs : List Char} (h_c : c ∈ brackets)
    (h_comment : ∀ d tail, cs = '/' :: d :: tail → d ≠ '*') :
    ∃ lexeme, Lexer.lexemes? (c :: cs) = some ([lexeme], cs) ∧ (mark c).lexeme? = some lexeme ∧
      lexeme.unjoined = lexeme := by
  have h_all : ∀ c ∈ brackets, c ≠ '/' := by decide
  have h_doc : Lexer.docComment? (c :: cs) = none :=
    Lexer.docComment?_eq_none fun h_eq => absurd h_eq (h_all c h_c)
  have h_missing : Lexer.after? missingLiteral (c :: cs) = none := by
    refine if_neg fun h_starts => ?_
    obtain ⟨tail, h_tail⟩ := List.isPrefixOf_iff_prefix.mp h_starts
    cases h_tail
    exact h_comment '*' _ rfl rfl
  rw [Lexer.lexemes?, h_doc, h_missing]
  simp only [brackets, List.mem_cons, List.not_mem_nil, or_false] at h_c
  rcases h_c with rfl | rfl | rfl | rfl | rfl | rfl
  · exact ⟨.opening .paren, rfl, rfl, rfl⟩
  · exact ⟨.opening .bracket, rfl, rfl, rfl⟩
  · exact ⟨.opening .brace, rfl, rfl, rfl⟩
  · exact ⟨.closing .paren, rfl, rfl, rfl⟩
  · exact ⟨.closing .bracket, rfl, rfl, rfl⟩
  · exact ⟨.closing .brace, rfl, rfl, rfl⟩

/-- The mark of a lifetime is read as such in front of its name. -/
theorem lexemes?_quote {tree : TokenTree} (h_tree : FollowsQuote tree) {cs : List Char}
    (h_stops : Stops cs) :
    Lexer.lexemes? ('\'' :: (tree.chars ++ cs)) =
      some ([.tree (.punct '\'' true)], tree.chars ++ cs) := by
  rw [Lexer.lexemes?_eq (by decide), h_tree.reads cs h_stops]
  rfl

theorem lexeme?_punct {c : Char} (h_c : c ∈ punctuation) :
    (mark c).lexeme? = some (.tree (.punct c false)) := by
  have h_all : ∀ c ∈ punctuation, Delimiter.ofOpening? c = none ∧ Delimiter.ofClosing? c = none ∧
      c ≠ ' ' := by
    decide
  obtain ⟨h_opening, h_closing, h_space⟩ := h_all c h_c
  simp only [lexeme?, h_opening, h_closing, if_neg h_space]

/-- The lexeme that the first of the pieces stands for is read, if it is no space. -/
theorem exists_lexemes? (h_spaced : Spaced (piece :: rest)) (h_exact : Exact (piece :: rest))
    (h_piece : piece ≠ mark ' ') :
    ∃ c tail lexeme, charsOf (piece :: rest) = c :: tail ∧ Lexer.skipBlanks (c :: tail) = c :: tail ∧
      Lexer.lexemes? (c :: tail) = some ([lexeme], charsOf rest) ∧
      piece.lexeme? = some lexeme.unjoined := by
  cases piece with
  | atom tree text =>
    obtain ⟨h_atom, h_free, -, h_next⟩ := h_spaced.1
    obtain ⟨c, tail, h_text, -, h_begins, h_separator⟩ := h_free.first
    have h_slash : c ≠ '/' := by
      rintro rfl
      exact h_begins (.head _)
    have h_reads := h_free.reads _ (stops_charsOf h_next)
    rw [charsOf_cons, Piece.chars, h_exact.head]
    rw [h_text, List.cons_append] at h_reads ⊢
    refine ⟨c, _, .tree tree, rfl,
      Lexer.skipBlanks_eq h_separator fun h_eq => absurd h_eq h_slash, h_reads, ?_⟩
    cases tree with
    | word text => rfl
    | literal text => rfl
    | punct char joint => cases h_atom
    | group delimiter inner => cases h_atom
  | mark c =>
    obtain ⟨h_c, h_quote, -⟩ := h_spaced.1
    have h_space : c ≠ ' ' := fun h_eq => h_piece (by rw [h_eq])
    have h_all : ∀ c ∈ brackets ++ punctuation, isSeparator c = false := by decide
    have h_c : c ∈ brackets ++ punctuation := (List.mem_cons.mp h_c).resolve_left h_space
    have h_slash : c = '/' → ∀ d tail, charsOf rest = d :: tail → d ≠ '/' ∧ d ≠ '*' := by
      rintro rfl d tail h_rest
      exact h_spaced.no_comment h_exact (congrArg _ h_rest)
    have h_blanks := Lexer.skipBlanks_eq (h_all c h_c) h_slash
    rcases List.mem_append.mp h_c with h_bracket | h_punct
    · obtain ⟨lexeme, h_reads, h_found, h_unjoined⟩ := lexemes?_bracket h_bracket
        fun d tail h_rest => (h_spaced.2.no_comment h_exact.tail h_rest).2
      exact ⟨c, _, lexeme, rfl, h_blanks, h_reads, by rw [h_found, h_unjoined]⟩
    · by_cases h_eq : c = '\''
      · obtain ⟨tree, text, tail, rfl, h_tree⟩ := h_quote h_eq
        have h_reads := lexemes?_quote h_tree (stops_charsOf h_spaced.2.1.2.2.2)
        rw [← h_exact.tail.head, ← h_eq] at h_reads
        exact ⟨c, _, _, rfl, h_blanks, h_reads, lexeme?_punct h_punct⟩
      · exact ⟨c, _, _, rfl, h_blanks, lexemes?_punct h_punct h_eq h_slash, lexeme?_punct h_punct⟩

theorem scan?_space (steps : Nat) (cs : List Char) :
    Lexer.scan? steps (' ' :: cs) = Lexer.scan? steps cs := by
  have h_blanks : Lexer.skipBlanks (' ' :: cs) = Lexer.skipBlanks cs := by
    simp [Lexer.skipBlanks, Lexer.skipBlanksWithin, Lexer.startsLineComment,
      Lexer.startsBlockComment, Lexer.startsWith, isSeparator, isBlank]
  cases steps with
  | zero => rfl
  | succ steps => rw [Lexer.scan?, Lexer.scan?, h_blanks]

/-- Pieces that stay apart are read back. -/
theorem exists_scan? (h_spaced : Spaced pieces) (h_exact : Exact pieces) {steps : Nat}
    (h_steps : pieces.length < steps) :
    ∃ found, Lexer.scan? steps (charsOf pieces) = some found ∧
      found.map Lexeme.unjoined = lexemesOf pieces := by
  induction pieces generalizing steps with
  | nil =>
    cases steps with
    | zero => cases h_steps
    | succ steps => exact ⟨[], rfl, rfl⟩
  | cons piece rest ih =>
    rw [List.length_cons] at h_steps
    by_cases h_piece : piece = mark ' '
    · rw [h_piece, charsOf_cons, lexemesOf_space]
      obtain ⟨found, h_found, h_eq⟩ := ih h_spaced.2 h_exact.tail (Nat.lt_of_succ_lt h_steps)
      exact ⟨found, (scan?_space steps _).trans h_found, h_eq⟩
    · obtain ⟨c, tail, lexeme, h_chars, h_blanks, h_reads, h_lexeme⟩ :=
        exists_lexemes? h_spaced h_exact h_piece
      cases steps with
      | zero => cases h_steps
      | succ steps =>
        obtain ⟨found, h_found, h_eq⟩ :=
          ih h_spaced.2 h_exact.tail (Nat.lt_of_succ_lt_succ h_steps)
        refine ⟨lexeme :: found, ?_, ?_⟩
        · rw [h_chars, Lexer.scan?, h_blanks]
          simp only [h_reads, h_found]
          rfl
        · rw [lexemesOf, List.filterMap_cons_some h_lexeme, List.map_cons, h_eq, lexemesOf]

/-! ## Blanks around pieces -/

/-- A piece that is no space neither begins nor ends with a blank. -/
theorem not_blank (h_admits : piece.Admits rest) (h_exact : Exact [piece])
    (h_piece : piece ≠ mark ' ') :
    (∃ c tail, piece.chars = c :: tail ∧ isBlank c = false) ∧
      ∃ init c, piece.chars = init ++ [c] ∧ isBlank c = false := by
  cases piece with
  | mark c =>
    have h_all : ∀ c ∈ brackets ++ punctuation, isBlank c = false := by decide
    have h_c : isBlank c = false := by
      refine h_all c ((List.mem_cons.mp h_admits.1).resolve_left fun h_eq => h_piece ?_)
      rw [h_eq]
    exact ⟨⟨c, [], rfl, h_c⟩, [], c, rfl, h_c⟩
  | atom tree text =>
    have h_free := h_admits.2.1
    have h_blank : ∀ c, isSeparator c = false → isBlank c = false := by
      intro c h_separator
      rw [isSeparator, Bool.or_eq_false_iff, Bool.or_eq_false_iff] at h_separator
      exact h_separator.1.1
    rw [Piece.chars, h_exact.head]
    refine ⟨?_, ?_⟩
    · obtain ⟨c, tail, h_text, -, -, h_separator⟩ := h_free.first
      exact ⟨c, tail, h_text, h_blank c h_separator⟩
    · rcases h_free.edges with rfl | ⟨-, init, c, h_text, h_ends⟩
      · exact ⟨"(/*ERROR*/".toList, ')', rfl, by decide⟩
      · refine ⟨init, c, h_text, ?_⟩
        rcases h_ends with h_continue | h_mark
        · exact h_blank c (Lexer.isSeparator_of_isContinue h_continue)
        · have h_all : ∀ c ∈ ['"', '\'', '#', '.'], isBlank c = false := by decide
          exact h_all c h_mark

/-- There are no more pieces than characters. -/
theorem length_le_charsOf (h_spaced : Spaced pieces) (h_exact : Exact pieces) :
    pieces.length ≤ (charsOf pieces).length := by
  induction pieces with
  | nil => exact Nat.le_refl 0
  | cons piece rest ih =>
    have h_rest := ih h_spaced.2 h_exact.tail
    have h_piece : 0 < piece.chars.length := by
      cases piece with
      | mark c => exact Nat.one_pos
      | atom tree text =>
        obtain ⟨c, tail, h_text, -⟩ := h_spaced.1.2.1.first
        rw [Piece.chars, h_exact.head, h_text]
        exact Nat.succ_pos _
    rw [charsOf_cons, List.length_append, List.length_cons]
    omega

theorem exists_dropWhile (h_spaced : Spaced pieces) (h_exact : Exact pieces) :
    ∃ found, Spaced found ∧ Exact found ∧ charsOf found = (charsOf pieces).dropWhile isBlank ∧
      lexemesOf found = lexemesOf pieces := by
  induction pieces with
  | nil => exact ⟨[], trivial, h_exact, rfl, rfl⟩
  | cons piece rest ih =>
    by_cases h_piece : piece = mark ' '
    · obtain ⟨found, h_found, h_exact', h_chars, h_lexemes⟩ := ih h_spaced.2 h_exact.tail
      rw [h_piece]
      exact ⟨found, h_found, h_exact', h_chars, h_lexemes⟩
    · have h_alone : Exact [piece] := fun tree text h_mem =>
        h_exact tree text (List.mem_singleton.mp h_mem ▸ .head _)
      obtain ⟨⟨c, tail, h_chars, h_blank⟩, -⟩ := not_blank h_spaced.1 h_alone h_piece
      refine ⟨piece :: rest, h_spaced, h_exact, ?_, rfl⟩
      rw [charsOf_cons, h_chars, List.cons_append, List.dropWhile_cons_of_neg (by simp [h_blank])]

/-- Nothing needs a space behind it. -/
theorem Spaced.dropSpace (h_spaced : Spaced (pieces ++ [mark ' '])) : Spaced pieces := by
  induction pieces with
  | nil => trivial
  | cons piece rest ih =>
    refine ⟨?_, ih h_spaced.2⟩
    have h_admits := h_spaced.1
    cases piece with
    | atom tree text =>
      obtain ⟨h_atom, h_free, h_solid, h_next⟩ := h_admits
      refine ⟨h_atom, h_free, h_solid, fun next tail h_rest => ?_⟩
      exact h_next next (tail ++ [mark ' ']) (by rw [h_rest]; rfl)
    | mark c =>
      obtain ⟨h_c, h_quote, h_slash⟩ := h_admits
      refine ⟨h_c, fun h_eq => ?_, fun h_eq d tail h_rest => ?_⟩
      · obtain ⟨tree, text, tail, h_rest, h_tree⟩ := h_quote h_eq
        cases rest with
        | nil => cases h_rest
        | cons next more =>
          cases h_rest
          exact ⟨tree, text, more, rfl, h_tree⟩
      · exact h_slash h_eq d (tail ++ [mark ' ']) (by rw [h_rest]; rfl)

theorem Spaced.last (h_spaced : Spaced (pieces ++ [piece])) : piece.Admits [] := by
  induction pieces with
  | nil => exact h_spaced.1
  | cons first rest ih => exact ih h_spaced.2

theorem dropRightWhile_concat (cs : List Char) (c : Char) :
    Text.dropRightWhile isBlank (cs ++ [c]) =
      if isBlank c = true then Text.dropRightWhile isBlank cs else cs ++ [c] := by
  simp only [Text.dropRightWhile, List.reverse_append, List.reverse_singleton,
    List.singleton_append, List.dropWhile_cons]
  split <;> simp

theorem exists_dropRightWhile (h_spaced : Spaced pieces) (h_exact : Exact pieces) :
    ∃ found, Spaced found ∧ Exact found ∧
      charsOf found = Text.dropRightWhile isBlank (charsOf pieces) ∧
      lexemesOf found = lexemesOf pieces := by
  -- By induction on the number of pieces, as they are dropped at the end.
  induction h_length : pieces.length generalizing pieces with
  | zero =>
    obtain rfl := List.length_eq_zero_iff.mp h_length
    exact ⟨[], trivial, h_exact, rfl, rfl⟩
  | succ length ih =>
    obtain rfl | ⟨init, piece, rfl⟩ := List.eq_nil_or_concat pieces
    · cases h_length
    · rw [List.concat_eq_append] at h_spaced h_exact h_length ⊢
      by_cases h_piece : piece = mark ' '
      · rw [h_piece] at h_spaced h_exact ⊢
        have h_exact' : Exact init := fun tree text h_mem =>
          h_exact tree text (List.mem_append_left _ h_mem)
        obtain ⟨found, h_found, h_exact'', h_chars, h_lexemes⟩ :=
          ih h_spaced.dropSpace h_exact' (by simpa using h_length)
        refine ⟨found, h_found, h_exact'', ?_, ?_⟩
        · rw [h_chars, charsOf_append]
          exact (dropRightWhile_concat _ ' ').symm
        · rw [h_lexemes, lexemesOf_append]
          exact (List.append_nil _).symm
      · have h_alone : Exact [piece] := fun tree text h_mem =>
          h_exact tree text (List.mem_append_right _ h_mem)
        obtain ⟨-, more, c, h_chars, h_blank⟩ := not_blank h_spaced.last h_alone h_piece
        refine ⟨init ++ [piece], h_spaced, h_exact, ?_, rfl⟩
        have h_all : charsOf (init ++ [piece]) = (charsOf init ++ more) ++ [c] := by
          rw [charsOf_append, charsOf_cons, h_chars, List.append_assoc]
          simp [charsOf]
        rw [h_all, dropRightWhile_concat, if_neg (by simp [h_blank])]

/-- Pieces without the blanks around them are pieces again. -/
theorem exists_trim (h_spaced : Spaced pieces) (h_exact : Exact pieces) :
    ∃ found, Spaced found ∧ Exact found ∧ charsOf found = Text.trim (charsOf pieces) ∧
      lexemesOf found = lexemesOf pieces := by
  obtain ⟨middle, h_middle, h_exact', h_chars, h_lexemes⟩ := exists_dropWhile h_spaced h_exact
  obtain ⟨found, h_found, h_exact'', h_chars', h_lexemes'⟩ := exists_dropRightWhile h_middle h_exact'
  refine ⟨found, h_found, h_exact'', ?_, h_lexemes'.trans h_lexemes⟩
  rw [h_chars', h_chars, Text.trim]

end Piece
end FieldDelta.Syntax
