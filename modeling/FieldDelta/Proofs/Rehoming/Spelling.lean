import FieldDelta.Proofs.Rehoming.Compaction
import FieldDelta.Proofs.Syntax.Grammar

/-! # Spelling a type keeps its tokens

Where the substitutions that make the text of a type compact do not change a literal, the spelled
type has the tokens that the type has.

* `TokenTree.piecesOfList` — the pieces of the text of trees;
* `TokenTree.spaced_piecesOfList` — those of trees that can be written stay apart;
* `tokens_spellType` — the tokens of a spelled type;
* `spellType_changes_tokens` — a literal that changes, and operators that are joined.
-/

namespace FieldDelta.Syntax

open Lexer (Lexeme StandsFree stopMarks spacedMarks punctuation)

/-! ## The pieces of trees -/

open Piece (mark atom)
open TokenTree (flattenList Writable)

/-- Puts a group's pieces between its delimiters. -/
def Delimiter.wrapPieces (delimiter : Delimiter) (inner : List Piece) : List Piece :=
  match delimiter with
  | brace =>
    if (Piece.charsOf inner).isEmpty then "\x7b \x7d".toList.map mark
    else "\x7b ".toList.map mark ++ inner ++ " \x7d".toList.map mark
  | _ => [mark delimiter.opening] ++ inner ++ [mark delimiter.closing]

namespace TokenTree

/-- What stands between a tree and the rest of a sequence. -/
def gap (tree : TokenTree) (rest : List TokenTree) : List Piece :=
  if tree.isJoint || rest.isEmpty then [] else [mark ' ']

mutual

def pieces : TokenTree → List Piece
  | word text => [.atom (.word text) text.toList]
  | punct char _ => [.mark char]
  | literal text => [.atom (.literal text) text.toList]
  | group delimiter inner => delimiter.wrapPieces (piecesOfList inner)

/-- The pieces of a sequence of token trees: one space between two of them, except after a joint
    punctuation character. -/
def piecesOfList : List TokenTree → List Piece
  | [] => []
  | tree :: rest => tree.pieces ++ (tree.gap rest ++ piecesOfList rest)

end

theorem charsOf_wrapPieces (delimiter : Delimiter) (inner : List Piece) :
    Piece.charsOf (delimiter.wrapPieces inner) = delimiter.wrap (Piece.charsOf inner) := by
  cases delimiter with
  | brace =>
    rw [Delimiter.wrapPieces, Delimiter.wrap]
    split <;> simp only [Piece.charsOf_append, Piece.charsOf_marks]
  | paren => simp [Delimiter.wrapPieces, Delimiter.wrap, Piece.charsOf, Piece.chars]
  | bracket => simp [Delimiter.wrapPieces, Delimiter.wrap, Piece.charsOf, Piece.chars]

mutual

theorem charsOf_pieces (tree : TokenTree) : Piece.charsOf tree.pieces = tree.chars := by
  cases tree with
  | word text => exact List.append_nil _
  | punct char joint => rfl
  | literal text => exact List.append_nil _
  | group delimiter inner =>
    rw [pieces, charsOf_wrapPieces, charsOf_piecesOfList inner, chars]

/-- The pieces make up the text. -/
theorem charsOf_piecesOfList (trees : List TokenTree) :
    Piece.charsOf (piecesOfList trees) = charsOfList trees := by
  cases trees with
  | nil => rfl
  | cons tree rest =>
    rw [piecesOfList, Piece.charsOf_append, Piece.charsOf_append, charsOf_pieces tree,
      charsOf_piecesOfList rest]
    cases rest with
    | nil => simp [gap, charsOfList, Piece.charsOf]
    | cons next more =>
      rw [charsOfList]
      cases h_joint : tree.isJoint <;> simp [gap, h_joint, Piece.charsOf, Piece.chars]

end

/-- Pieces that begin with a character that words and literals stop at, if there are any. -/
def BeginsWithStop (pieces : List Piece) : Prop :=
  ∀ next tail, pieces = next :: tail → ∃ c ∈ stopMarks, next = mark c

variable {tree : TokenTree} {rest : List TokenTree} {behind : List Piece}

theorem beginsWithStop_nil : BeginsWithStop [] := by
  intro next tail h_eq
  cases h_eq

theorem beginsWithStop_gap (h_tree : tree.isJoint = false) (h_behind : BeginsWithStop behind) :
    BeginsWithStop (gap tree rest ++ (piecesOfList rest ++ behind)) := by
  intro next tail h_eq
  rw [gap, h_tree, Bool.false_or] at h_eq
  cases rest with
  | nil => exact h_behind next tail h_eq
  | cons first more =>
    cases h_eq
    exact ⟨' ', by decide, rfl⟩

theorem spaced_gap (h_rest : Piece.Spaced behind) : Piece.Spaced (gap tree rest ++ behind) := by
  have h_space : ∀ c ∈ [' '], c ∈ Piece.brackets ++ spacedMarks := by decide
  unfold gap
  split
  · exact h_rest
  · exact .marks h_space h_rest

theorem spaced_atom (h_atom : tree.IsAtom) (h_free : StandsFree tree) (h_spaced : Piece.Spaced behind)
    (h_behind : BeginsWithStop behind) : Piece.Spaced (atom tree tree.chars :: behind) := by
  refine ⟨⟨h_atom, h_free, ?_, h_behind⟩, h_spaced⟩
  rcases h_free.edges with rfl | h_edged
  · exact .inl rfl
  · exact .inr h_edged

/-- A token that comes first among the lexemes comes first among the trees. -/
theorem exists_cons_of_flattenList {token : TokenTree} {others : List Lexeme}
    (h_rest : flattenList rest = .tree token :: others) : ∃ more, rest = token :: more := by
  cases rest with
  | nil => cases h_rest
  | cons first more =>
    refine ⟨more, ?_⟩
    cases first with
    | group delimiter inner => cases h_rest
    | word text => rw [Lexeme.tree.inj (List.cons.inj h_rest).1]
    | literal text => rw [Lexeme.tree.inj (List.cons.inj h_rest).1]
    | punct char joint => rw [Lexeme.tree.inj (List.cons.inj h_rest).1]

/-- What comes next may follow punctuation directly if it is joint, and otherwise behind a space. -/
theorem admits_punct {c : Char} {joint : Bool}
    (h_punct : (Lexeme.tree (.punct c joint)).IsWritable (flattenList rest))
    (h_behind : BeginsWithStop behind) :
    (mark c).Admits (gap (.punct c joint) rest ++ (piecesOfList rest ++ behind)) := by
  obtain ⟨h_c, h_quote, h_slash⟩ := h_punct
  refine ⟨List.mem_append_right _ h_c, fun h_eq => ?_, fun h_eq d tail h_next => ?_⟩
  · obtain ⟨rfl, token, others, h_rest, h_atom, h_token⟩ := h_quote h_eq
    obtain ⟨more, rfl⟩ := exists_cons_of_flattenList h_rest
    cases token with
    | word text => exact ⟨.word text, _, _, rfl, h_token⟩
    | literal text => exact ⟨.literal text, _, _, rfl, h_token⟩
    | punct char joint => cases h_atom
    | group delimiter inner => cases h_atom
  · cases joint with
    | false =>
      have h_all : ∀ d ∈ stopMarks, d ≠ '/' ∧ d ≠ '*' := by decide
      obtain ⟨d, h_d, h_mark⟩ := beginsWithStop_gap rfl h_behind _ _ h_next
      cases h_mark
      exact h_all d h_d
    | true =>
      obtain ⟨token, others, h_rest, h_token⟩ := h_slash h_eq rfl
      obtain ⟨more, rfl⟩ := exists_cons_of_flattenList h_rest
      cases token with
      | word text => cases h_next
      | literal text => cases h_next
      | punct char joint =>
        cases h_next
        exact h_token
      | group delimiter inner => cases h_rest

theorem spaced_wrapPieces {inner : List Piece} (delimiter : Delimiter)
    (h_inner : ∀ behind, Piece.Spaced behind → BeginsWithStop behind →
      Piece.Spaced (inner ++ behind)) (h_behind : Piece.Spaced behind) :
    Piece.Spaced (delimiter.wrapPieces inner ++ behind) := by
  have h_marks : ∀ text ∈ ["\x7b \x7d", "\x7b ", " \x7d", "(", ")", "[", "]"],
      ∀ c ∈ text.toList, c ∈ Piece.brackets ++ spacedMarks := by
    decide
  have h_around {opening closing : String} {c : Char} {more : List Char}
      (h_opening : ∀ c ∈ opening.toList, c ∈ Piece.brackets ++ spacedMarks)
      (h_closing : ∀ c ∈ closing.toList, c ∈ Piece.brackets ++ spacedMarks)
      (h_first : closing.toList = c :: more) (h_c : c ∈ stopMarks) :
      Piece.Spaced (opening.toList.map mark ++ inner ++ closing.toList.map mark ++ behind) := by
    rw [List.append_assoc, List.append_assoc]
    refine .marks h_opening (h_inner _ (.marks h_closing h_behind) ?_)
    rintro next tail h_eq
    rw [h_first] at h_eq
    cases h_eq
    exact ⟨c, h_c, rfl⟩
  cases delimiter with
  | brace =>
    rw [Delimiter.wrapPieces]
    split
    · exact .marks (h_marks _ (by decide)) h_behind
    · exact h_around (h_marks _ (by decide)) (h_marks _ (by decide)) rfl (by decide)
  | paren =>
    exact h_around (h_marks "(" (by decide)) (h_marks ")" (by decide)) rfl (by decide)
  | bracket =>
    exact h_around (h_marks "[" (by decide)) (h_marks "]" (by decide)) rfl (by decide)

/-- The pieces of trees that can be written stay apart. -/
theorem spaced_piecesOfList (trees : List TokenTree) {behind : List Piece}
    (h_trees : Writable trees) (h_spaced : Piece.Spaced behind) (h_behind : BeginsWithStop behind) :
    Piece.Spaced (piecesOfList trees ++ behind) := by
  cases trees with
  | nil => exact h_spaced
  | cons tree rest =>
    have h_rest : Piece.Spaced (gap tree rest ++ (piecesOfList rest ++ behind)) :=
      spaced_gap (spaced_piecesOfList rest h_trees.tail h_spaced h_behind)
    rw [piecesOfList, List.append_assoc, List.append_assoc]
    cases tree with
    | word text =>
      have h_free := (Lexer.followsQuote_word h_trees.1).standsFree
      exact spaced_atom trivial h_free h_rest (beginsWithStop_gap rfl h_behind)
    | literal text => exact spaced_atom trivial h_trees.1 h_rest (beginsWithStop_gap rfl h_behind)
    | punct char joint => exact ⟨admits_punct h_trees.1 h_behind, h_rest⟩
    | group delimiter inner =>
      exact spaced_wrapPieces delimiter (fun _ => spaced_piecesOfList inner h_trees.inside) h_rest

theorem mem_of_mem_wrapPieces {delimiter : Delimiter} {inner : List Piece} {text : List Char}
    (h_mem : atom tree text ∈ delimiter.wrapPieces inner) : atom tree text ∈ inner := by
  have h_mark : ∀ c, atom tree text ≠ mark c := nofun
  cases delimiter with
  | brace =>
    rw [Delimiter.wrapPieces] at h_mem
    split at h_mem
    · simp at h_mem
    · simpa [h_mark] using h_mem
  | paren => simpa [Delimiter.wrapPieces, h_mark] using h_mem
  | bracket => simpa [Delimiter.wrapPieces, h_mark] using h_mem

/-- The pieces are those of the text as it is. -/
theorem exact_piecesOfList (trees : List TokenTree) : Piece.Exact (piecesOfList trees) := by
  cases trees with
  | nil => exact nofun
  | cons tree rest =>
    intro token text h_mem
    rw [piecesOfList, List.mem_append, List.mem_append] at h_mem
    rcases h_mem with h_mem | h_mem | h_mem
    · cases tree with
      | word name =>
        cases List.mem_singleton.mp h_mem
        rfl
      | literal name =>
        cases List.mem_singleton.mp h_mem
        rfl
      | punct char joint => cases List.mem_singleton.mp h_mem
      | group delimiter inner =>
        exact exact_piecesOfList inner token text (mem_of_mem_wrapPieces h_mem)
    · unfold gap at h_mem
      split at h_mem
      · cases h_mem
      · cases List.mem_singleton.mp h_mem
    · exact exact_piecesOfList rest token text h_mem

theorem lexemesOf_wrapPieces (delimiter : Delimiter) {inner : List Piece}
    (h_spaced : Piece.Spaced inner) (h_exact : Piece.Exact inner) :
    Piece.lexemesOf (delimiter.wrapPieces inner) =
      .opening delimiter :: Piece.lexemesOf inner ++ [.closing delimiter] := by
  cases delimiter with
  | brace =>
    rw [Delimiter.wrapPieces]
    split
    next h_empty =>
      have h_length := Piece.length_le_charsOf h_spaced h_exact
      rw [List.isEmpty_iff.mp h_empty] at h_length
      rw [List.length_eq_zero_iff.mp (Nat.le_zero.mp h_length)]
      rfl
    next =>
      rw [Piece.lexemesOf_append, Piece.lexemesOf_append]
      rfl
  | paren =>
    rw [Delimiter.wrapPieces, Piece.lexemesOf_append, Piece.lexemesOf_append]
    · rfl
    · nofun
  | bracket =>
    rw [Delimiter.wrapPieces, Piece.lexemesOf_append, Piece.lexemesOf_append]
    · rfl
    · nofun

/-- The lexemes of trees that can be written, up to spacing, are those of their pieces. -/
theorem lexemesOf_piecesOfList (trees : List TokenTree) (h_trees : Writable trees) :
    Piece.lexemesOf (piecesOfList trees) = (flattenList trees).map Lexeme.unjoined := by
  cases trees with
  | nil => rfl
  | cons tree rest =>
    have h_rest := lexemesOf_piecesOfList rest h_trees.tail
    have h_gap : Piece.lexemesOf (gap tree rest) = [] := by
      unfold gap
      split <;> rfl
    have h_tree : Piece.lexemesOf tree.pieces = tree.flatten.map Lexeme.unjoined := by
      cases tree with
      | word text => rfl
      | literal text => rfl
      | punct char joint =>
        have h_char := Piece.lexeme?_punct h_trees.1.1
        rw [pieces, Piece.lexemesOf, List.filterMap_cons_some h_char]
        rfl
      | group delimiter inner =>
        have h_inner := h_trees.inside
        have h_spaced : Piece.Spaced (piecesOfList inner ++ []) :=
          spaced_piecesOfList inner h_inner trivial beginsWithStop_nil
        rw [List.append_nil] at h_spaced
        rw [pieces, lexemesOf_wrapPieces delimiter h_spaced (exact_piecesOfList inner),
          lexemesOf_piecesOfList inner h_inner, flatten]
        simp [Lexeme.unjoined]
    rw [piecesOfList, Piece.lexemesOf_append, Piece.lexemesOf_append, h_tree, h_rest, flattenList,
      List.map_append]
    exact congrArg _ (congrArg (· ++ _) h_gap)

end TokenTree

/-! ## Spelled types -/

/-- A word or literal is among the lexemes of its piece. -/
theorem Piece.mem_lexemesOf {pieces : List Piece} {tree : TokenTree} {text : List Char}
    (h_mem : atom tree text ∈ pieces) : Lexeme.tree tree ∈ lexemesOf pieces :=
  List.mem_filterMap.mpr ⟨_, h_mem, rfl⟩

theorem Piece.isAtom_of_mem {pieces : List Piece} (h_spaced : Spaced pieces) {tree : TokenTree}
    {text : List Char} (h_mem : atom tree text ∈ pieces) : tree.IsAtom := by
  induction pieces with
  | nil => cases h_mem
  | cons piece rest ih =>
    rcases List.mem_cons.mp h_mem with rfl | h_mem
    · exact h_spaced.1.1
    · exact ih h_spaced.2 h_mem

theorem Lexer.isWritable_of_mem {lexemes : List Lexeme} (h_lexemes : Lexer.AreWritable lexemes)
    {lexeme : Lexeme} (h_mem : lexeme ∈ lexemes) : ∃ rest, lexeme.IsWritable rest := by
  induction lexemes with
  | nil => cases h_mem
  | cons first rest ih =>
    rcases List.mem_cons.mp h_mem with rfl | h_mem
    · exact ⟨rest, h_lexemes.1⟩
    · exact ih h_lexemes.2 h_mem

theorem not_mem_spacedMarks_of_isProperWord {text : String} (h_text : Lexer.IsProperWord text) :
    ∀ c ∈ text.toList, c ∉ spacedMarks := by
  have h_name : ∀ name, IsIdentifier name → ∀ c ∈ name, c ∉ spacedMarks := by
    rintro name ⟨first, rest, rfl, h_first, h_rest⟩ c h_c
    refine Lexer.not_mem_spacedMarks ?_
    rcases List.mem_cons.mp h_c with rfl | h_c
    · exact Unicode.isIdentifierContinue_of_start h_first
    · exact h_rest c h_c
  rcases h_text with h_text | ⟨name, h_text, h_raw, -⟩
  · exact h_name _ h_text
  · have h_mark : ∀ c ∈ ['r', '#'], c ∉ spacedMarks := by decide
    rw [h_text]
    intro c h_c
    rcases List.mem_append.mp (show c ∈ ['r', '#'] ++ name from h_c) with h_c | h_c
    · exact h_mark c h_c
    · exact h_name name h_raw c h_c

/-- No text of pieces begins with a byte order mark. -/
theorem Piece.withoutByteOrderMark_charsOf {pieces : List Piece} (h_spaced : Spaced pieces)
    (h_exact : Exact pieces) : Lexer.withoutByteOrderMark (charsOf pieces) = charsOf pieces := by
  have h_first : ∀ tail, charsOf pieces ≠ '﻿' :: tail := by
    intro tail h_chars
    cases pieces with
    | nil => cases h_chars
    | cons piece rest =>
      cases piece with
      | mark c =>
        have h_all : '﻿' ∉ ' ' :: brackets ++ punctuation := by decide
        cases (List.cons.inj h_chars).1
        exact h_all h_spaced.1.1
      | atom tree text =>
        obtain ⟨c, more, h_text, -, h_begins, -⟩ := h_spaced.1.2.1.first
        rw [charsOf_cons, Piece.chars, h_exact.head, h_text] at h_chars
        cases h_chars
        exact absurd h_begins (by decide)
  unfold Lexer.withoutByteOrderMark
  split
  next rest h_chars => exact absurd h_chars (h_first rest)
  next => rfl

/-- Pieces that stay apart are the text of the trees whose lexemes they stand for. -/
theorem Piece.exists_trees? {pieces : List Piece} (h_spaced : Spaced pieces) (h_exact : Exact pieces)
    {trees : List TokenTree} (h_trees : lexemesOf pieces = (flattenList trees).map Lexeme.unjoined) :
    ∃ found, Lexer.trees? (charsOf pieces) = some found ∧
      TokenTree.unjoinedList found = TokenTree.unjoinedList trees := by
  have h_length := length_le_charsOf h_spaced h_exact
  obtain ⟨lexemes, h_scan, h_lexemes⟩ :=
    exists_scan? h_spaced h_exact (Nat.lt_succ_of_le h_length)
  obtain ⟨found, h_nest, h_found⟩ := Lexer.exists_nest? (h_lexemes.trans h_trees)
  refine ⟨found, ?_, h_found⟩
  rw [Lexer.trees?]
  simp only [withoutByteOrderMark_charsOf h_spaced h_exact, h_scan, Option.bind_some, h_nest]

/-- The text of a literal. -/
def Lexer.Lexeme.literal? : Lexeme → Option String
  | .tree (.literal text) => some text
  | _ => none

/-- The literals among trees and in the groups among them. -/
def TokenTree.literals (trees : List TokenTree) : List String :=
  (flattenList trees).filterMap Lexeme.literal?

/-- Substitutions that do not change the literals among trees do not change their words either. -/
theorem exact_of_compact {trees : List TokenTree} (h_trees : Writable trees)
    (h_literals : ∀ literal ∈ TokenTree.literals trees,
      compact spellings literal.toList = literal.toList)
    {pieces : List Piece} (h_spaced : Piece.Spaced pieces)
    (h_lexemes : Piece.lexemesOf pieces = (flattenList trees).map Lexeme.unjoined)
    (h_text : ∀ tree text, atom tree text ∈ pieces → text = compact spellings tree.chars) :
    Piece.Exact pieces := by
  intro tree text h_mem
  have h_atom := Piece.isAtom_of_mem h_spaced h_mem
  have h_tree := Piece.mem_lexemesOf h_mem
  rw [h_lexemes] at h_tree
  obtain ⟨lexeme, h_lexeme, h_eq⟩ := List.mem_map.mp h_tree
  have h_lexeme' : Lexeme.tree tree ∈ flattenList trees := by
    cases lexeme with
    | opening delimiter => cases h_eq
    | closing delimiter => cases h_eq
    | tree token =>
      cases token with
      | word name =>
        cases h_eq
        exact h_lexeme
      | literal name =>
        cases h_eq
        exact h_lexeme
      | punct char joint =>
        cases h_eq
        cases h_atom
      | group delimiter inner =>
        cases h_eq
        cases h_atom
  rw [h_text tree text h_mem]
  cases tree with
  | word name =>
    obtain ⟨_, h_name⟩ := Lexer.isWritable_of_mem h_trees h_lexeme'
    exact compact_eq_self (fun _ h_pair => h_pair)
      (not_mem_spacedMarks_of_isProperWord h_name)
  | literal name => exact h_literals name (List.mem_filterMap.mpr ⟨_, h_lexeme', rfl⟩)
  | punct char joint => cases h_atom
  | group delimiter inner => cases h_atom

/-- A type whose tokens can be written is spelled with the tokens that it has, up to spacing, if the
    substitutions do not change its literals. -/
theorem exists_tokenize?_spellType {type : Phrase} (h_tokens : Writable type.tokens)
    (h_literals : ∀ literal ∈ TokenTree.literals type.tokens,
      compact spellings literal.toList = literal.toList) :
    ∃ trees, tokenize? (spellType type) = some trees ∧
      TokenTree.unjoinedList trees = TokenTree.unjoinedList type.tokens := by
  have h_spaced : Piece.Spaced (TokenTree.piecesOfList type.tokens ++ []) :=
    TokenTree.spaced_piecesOfList type.tokens h_tokens trivial nofun
  rw [List.append_nil] at h_spaced
  -- The substitutions, and then the blanks around the outcome, keep the lexemes of the pieces.
  obtain ⟨middle, h_middle, h_chars, h_lexemes, h_text⟩ :=
    Piece.exists_compact (fun _ h_pair => h_pair) id h_spaced
      (TokenTree.exact_piecesOfList type.tokens)
  rw [TokenTree.lexemesOf_piecesOfList type.tokens h_tokens] at h_lexemes
  have h_exact := exact_of_compact h_tokens h_literals h_middle h_lexemes h_text
  obtain ⟨found, h_found, h_exact', h_chars', h_lexemes'⟩ := Piece.exists_trim h_middle h_exact
  have h_spelled : (spellType type).toList = Piece.charsOf found := by
    rw [h_chars', h_chars, TokenTree.charsOf_piecesOfList]
    exact String.toList_ofList
  rw [tokenize?, h_spelled]
  exact Piece.exists_trees? h_found h_exact' (h_lexemes'.trans h_lexemes)

/-- A type that was parsed from text is spelled with the tokens that it has, up to spacing, if the
    substitutions do not change its literals. -/
theorem tokens_spellType {text : String} {type : Phrase} (h_type : parseType? text = some type)
    (h_literals : ∀ literal ∈ TokenTree.literals type.tokens,
      compact spellings literal.toList = literal.toList) :
    ∃ trees, tokenize? (spellType type) = some trees ∧
      TokenTree.unjoinedList trees = TokenTree.unjoinedList type.tokens :=
  exists_tokenize?_spellType (writable_of_parseType? h_type) h_literals

theorem tokens_spellType_array :
    ∃ type, parseType? "Option<&'static [u8; 4]>" = some type ∧
      (∀ literal ∈ TokenTree.literals type.tokens,
        compact spellings literal.toList = literal.toList) ∧
      ∃ trees, tokenize? (spellType type) = some trees ∧
        TokenTree.unjoinedList trees = TokenTree.unjoinedList type.tokens := by
  have h_some : (parseType? "Option<&'static [u8; 4]>").isSome = true := by decide +kernel
  obtain ⟨type, h_type⟩ := Option.isSome_iff_exists.mp h_some
  have h_literals : ((parseType? "Option<&'static [u8; 4]>").map fun type =>
      TokenTree.literals type.tokens) = some ["4"] := by
    decide +kernel
  rw [h_type, Option.map_some, Option.some_inj] at h_literals
  have h_same : ∀ literal ∈ TokenTree.literals type.tokens,
      compact spellings literal.toList = literal.toList := by
    rw [h_literals]
    decide
  exact ⟨type, h_type, h_same, tokens_spellType h_type h_same⟩

/-- A literal may change, and operators may be joined to others that cannot stand there. -/
theorem spellType_changes_tokens :
    (∃ type, parseType? "[u8; f(\"a :: b\")]" = some type ∧
      ∀ trees, tokenize? (spellType type) = some trees →
        TokenTree.unjoinedList trees ≠ TokenTree.unjoinedList type.tokens) ∧
    ∃ type, parseType? "[u8; a & &raw const b]" = some type ∧ parseType? (spellType type) = none := by
  refine ⟨?_, ?_⟩
  · have h_read : ((parseType? "[u8; f(\"a :: b\")]").map fun type =>
        (tokenText (TokenTree.unjoinedList type.tokens),
          (tokenize? (spellType type)).map fun trees => tokenText (TokenTree.unjoinedList trees))) =
        some ("[u8 ; f (\"a :: b\")]", some "[u8 ; f (\"a::b\")]") := by
      decide +kernel
    obtain ⟨type, h_type, h_tokens⟩ := Option.map_eq_some_iff.mp h_read
    obtain ⟨h_before, h_behind⟩ := Prod.mk.inj h_tokens
    refine ⟨type, h_type, fun trees h_trees h_eq => ?_⟩
    rw [h_trees, Option.map_some, Option.some_inj, h_eq, h_before] at h_behind
    exact absurd h_behind (by decide)
  · have h_read : ((parseType? "[u8; a & &raw const b]").map fun type =>
        (parseType? (spellType type)).isNone) = some true := by
      decide +kernel
    obtain ⟨type, h_type, h_none⟩ := Option.map_eq_some_iff.mp h_read
    exact ⟨type, h_type, Option.isNone_iff_eq_none.mp h_none⟩

end FieldDelta.Syntax
