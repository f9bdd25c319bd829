import FieldDelta.Proofs.Syntax.Leaves

/-! # Trees that can be written

Token trees are laid out as lexemes, which is what the lexer reads groups from.  They can be written
when all words and literals among them are read back, and when no two characters that stand next to
each other would begin a comment or a character literal.

* `TokenTree.flattenList` — the lexemes of trees;
* `Lexer.nest?_flattenList`, `Lexer.flattenList_of_nest?` — groups are formed from them and only
  from them;
* `TokenTree.unjoinedList` — trees up to the spacing of their punctuation;
* `TokenTree.Writable` — trees that can be written;
* `Lexer.writable_of_trees?` — whatever the lexer reads can be written.
-/

namespace FieldDelta.Syntax

open Unicode (isIdentifierStart isIdentifierContinue)

/-! ## Layout -/

namespace TokenTree

mutual

/-- The lexemes of a token tree. -/
def flatten : TokenTree → List Lexer.Lexeme
  | group delimiter inner => .opening delimiter :: flattenList inner ++ [.closing delimiter]
  | word text => [.tree (.word text)]
  | punct char joint => [.tree (.punct char joint)]
  | literal text => [.tree (.literal text)]

/-- The lexemes of token trees. -/
def flattenList : List TokenTree → List Lexer.Lexeme
  | [] => []
  | tree :: rest => tree.flatten ++ flattenList rest

end

@[simp] theorem flattenList_append (trees others : List TokenTree) :
    flattenList (trees ++ others) = flattenList trees ++ flattenList others := by
  induction trees with
  | nil => rfl
  | cons tree rest ih => simp [flattenList, ih]

end TokenTree

open TokenTree (flattenList)

namespace Lexer

mutual

theorem nest?_flatten (tree : TokenTree) (current : List TokenTree)
    (outer : List (Delimiter × List TokenTree)) (rest : List Lexeme) :
    nest? current outer (tree.flatten ++ rest) = nest? (tree :: current) outer rest := by
  cases tree with
  | word text => rfl
  | punct char joint => rfl
  | literal text => rfl
  | group delimiter inner =>
    rw [TokenTree.flatten, List.cons_append, List.cons_append, List.append_assoc, nest?,
      nest?_flattenList inner]
    simp [nest?]

/-- Groups are formed again from the lexemes of trees. -/
theorem nest?_flattenList (trees : List TokenTree) (current : List TokenTree)
    (outer : List (Delimiter × List TokenTree)) (rest : List Lexeme) :
    nest? current outer (flattenList trees ++ rest) =
      nest? (trees.reverse ++ current) outer rest := by
  cases trees with
  | nil => rfl
  | cons tree others =>
    rw [TokenTree.flattenList, List.append_assoc, nest?_flatten tree, nest?_flattenList others]
    simp

end

/-- The lexemes of a lexeme: those of a tree, if it is one. -/
def Lexeme.flatten : Lexeme → List Lexeme
  | .tree token => token.flatten
  | lexeme => [lexeme]

/-- The lexemes of the groups that are open, with what was read of them. -/
def openLexemes : List (Delimiter × List TokenTree) → List Lexeme
  | [] => []
  | (delimiter, before) :: outer =>
    openLexemes outer ++ flattenList before.reverse ++ [.opening delimiter]

/-- Forming groups neither drops nor adds a lexeme. -/
theorem flattenList_of_nest? {current : List TokenTree}
    {outer : List (Delimiter × List TokenTree)} {lexemes : List Lexeme} {trees : List TokenTree}
    (h_nest : nest? current outer lexemes = some trees) :
    flattenList trees =
      openLexemes outer ++ flattenList current.reverse ++ lexemes.flatMap Lexeme.flatten := by
  induction lexemes generalizing current outer with
  | nil =>
    rw [nest?, Option.ite_none_right_eq_some] at h_nest
    obtain ⟨h_outer, h_trees⟩ := h_nest
    cases h_trees
    rw [List.isEmpty_iff.mp h_outer]
    simp [openLexemes]
  | cons lexeme rest ih =>
    cases lexeme with
    | tree token =>
      rw [nest?] at h_nest
      rw [ih h_nest]
      simp [TokenTree.flattenList, Lexeme.flatten]
    | opening delimiter =>
      rw [nest?] at h_nest
      rw [ih h_nest]
      simp [openLexemes, TokenTree.flattenList, Lexeme.flatten]
    | closing delimiter =>
      match outer with
      | [] => cases h_nest
      | (opened, before) :: outer =>
        rw [nest?, Option.ite_none_right_eq_some] at h_nest
        obtain ⟨rfl, h_nest⟩ := h_nest
        rw [ih h_nest]
        simp [openLexemes, TokenTree.flattenList, TokenTree.flatten, Lexeme.flatten]

end Lexer

/-! ## Spacing -/

namespace TokenTree

mutual

/-- A tree without the marks that say how its punctuation is spaced. -/
def unjoined : TokenTree → TokenTree
  | word text => .word text
  | punct char _ => .punct char false
  | literal text => .literal text
  | group delimiter inner => .group delimiter (unjoinedList inner)

/-- Trees without the marks that say how their punctuation is spaced. -/
def unjoinedList : List TokenTree → List TokenTree
  | [] => []
  | tree :: rest => tree.unjoined :: unjoinedList rest

end

theorem unjoinedList_eq_map (trees : List TokenTree) : unjoinedList trees = trees.map unjoined := by
  induction trees with
  | nil => rfl
  | cons tree rest ih => rw [unjoinedList, ih, List.map_cons]

end TokenTree

namespace Lexer

/-- A lexeme without the mark that says how it is spaced. -/
def Lexeme.unjoined : Lexeme → Lexeme
  | .tree token => .tree token.unjoined
  | lexeme => lexeme

end Lexer

open TokenTree (unjoinedList)

mutual

theorem TokenTree.flatten_unjoined (tree : TokenTree) :
    tree.unjoined.flatten = tree.flatten.map Lexer.Lexeme.unjoined := by
  cases tree with
  | word text => rfl
  | punct char joint => rfl
  | literal text => rfl
  | group delimiter inner =>
    rw [TokenTree.unjoined, TokenTree.flatten, TokenTree.flattenList_unjoined inner,
      TokenTree.flatten]
    simp [Lexer.Lexeme.unjoined]

theorem TokenTree.flattenList_unjoined (trees : List TokenTree) :
    flattenList (unjoinedList trees) = (flattenList trees).map Lexer.Lexeme.unjoined := by
  cases trees with
  | nil => rfl
  | cons tree rest =>
    rw [TokenTree.unjoinedList, TokenTree.flattenList, TokenTree.flatten_unjoined tree,
      TokenTree.flattenList_unjoined rest, TokenTree.flattenList, List.map_append]

end

namespace Lexer

/-- How punctuation is spaced does not matter to groups. -/
theorem nest?_unjoined (current : List TokenTree) (outer : List (Delimiter × List TokenTree))
    (lexemes : List Lexeme) :
    nest? (current.map TokenTree.unjoined)
        (outer.map fun opened => (opened.1, opened.2.map TokenTree.unjoined))
        (lexemes.map Lexeme.unjoined) =
      (nest? current outer lexemes).map unjoinedList := by
  induction lexemes generalizing current outer with
  | nil =>
    rw [List.map_nil, nest?, nest?]
    cases outer <;> simp [TokenTree.unjoinedList_eq_map]
  | cons lexeme rest ih =>
    cases lexeme with
    | tree token => exact ih (token :: current) outer
    | opening delimiter => exact ih [] ((delimiter, current) :: outer)
    | closing delimiter =>
      match outer with
      | [] => rfl
      | (opened, before) :: outer =>
        rw [List.map_cons, List.map_cons]
        simp only [Lexeme.unjoined, nest?]
        split
        · rw [← ih]
          simp [TokenTree.unjoined, TokenTree.unjoinedList_eq_map]
        · rfl

/-- Lexemes that are those of trees up to spacing form these trees up to spacing. -/
theorem exists_nest? {lexemes : List Lexeme} {trees : List TokenTree}
    (h_lexemes : lexemes.map Lexeme.unjoined = (flattenList trees).map Lexeme.unjoined) :
    ∃ found, nest? [] [] lexemes = some found ∧ unjoinedList found = unjoinedList trees := by
  have h_unjoined := nest?_unjoined [] [] lexemes
  have h_trees := nest?_flattenList (unjoinedList trees) [] [] []
  rw [List.append_nil, List.append_nil, TokenTree.flattenList_unjoined, ← h_lexemes] at h_trees
  rw [List.map_nil, List.map_nil, h_trees, nest?] at h_unjoined
  obtain ⟨found, h_found, h_eq⟩ := Option.map_eq_some_iff.mp h_unjoined.symm
  exact ⟨found, h_found, h_eq.trans (List.reverse_reverse _)⟩

end Lexer

/-! ## Trees that can be written -/

/-- Words and literals, which are read as one piece. -/
def TokenTree.IsAtom : TokenTree → Prop
  | word _ => True
  | literal _ => True
  | _ => False

namespace Lexer

/-- Directly behind a slash, a second one or a star would begin a comment. -/
def FollowsSlash : TokenTree → Prop
  | .punct char _ => char ≠ '/' ∧ char ≠ '*'
  | _ => True

/-- A lexeme can be written in front of the given ones.  A quote is the mark of a lifetime, which
    belongs together with its name. -/
def Lexeme.IsWritable : Lexeme → List Lexeme → Prop
  | .tree (.word text), _ => IsProperWord text
  | .tree (.literal text), _ => StandsFree (.literal text)
  | .tree (.punct char joint), behind =>
    char ∈ punctuation ∧
    (char = '\'' → joint = true ∧
      ∃ token rest, behind = .tree token :: rest ∧ token.IsAtom ∧ FollowsQuote token) ∧
    (char = '/' → joint = true → ∃ token rest, behind = .tree token :: rest ∧ FollowsSlash token)
  | .tree (.group _ _), _ => False
  | _, _ => True

/-- Lexemes that can be written one after the other. -/
def AreWritable : List Lexeme → Prop
  | [] => True
  | lexeme :: rest => lexeme.IsWritable rest ∧ AreWritable rest

/-- What a lexeme admits behind it is about the next lexeme only. -/
theorem Lexeme.IsWritable.append {lexeme : Lexeme} {rest : List Lexeme}
    (h_lexeme : lexeme.IsWritable rest) (more : List Lexeme) : lexeme.IsWritable (rest ++ more) := by
  match lexeme with
  | .tree (.word text) => exact h_lexeme
  | .tree (.literal text) => exact h_lexeme
  | .tree (.punct char joint) =>
    obtain ⟨h_char, h_quote, h_slash⟩ := h_lexeme
    refine ⟨h_char, fun h_eq => ?_, fun h_eq h_joint => ?_⟩
    · obtain ⟨h_joint, token, rest, rfl, h_token⟩ := h_quote h_eq
      exact ⟨h_joint, token, rest ++ more, rfl, h_token⟩
    · obtain ⟨token, rest, rfl, h_token⟩ := h_slash h_eq h_joint
      exact ⟨token, rest ++ more, rfl, h_token⟩
  | .opening _ => trivial
  | .closing _ => trivial

theorem AreWritable.append {lexemes others : List Lexeme} (h_lexemes : AreWritable lexemes)
    (h_others : AreWritable others) : AreWritable (lexemes ++ others) := by
  induction lexemes with
  | nil => exact h_others
  | cons lexeme rest ih => exact ⟨h_lexemes.1.append others, ih h_lexemes.2⟩

theorem AreWritable.right {lexemes others : List Lexeme} (h_both : AreWritable (lexemes ++ others)) :
    AreWritable others := by
  induction lexemes with
  | nil => exact h_both
  | cons lexeme rest ih => exact ih h_both.2

/-- Nothing belongs together with a closing delimiter. -/
theorem AreWritable.inside {lexemes others : List Lexeme} {delimiter : Delimiter}
    (h_both : AreWritable (lexemes ++ .closing delimiter :: others)) : AreWritable lexemes := by
  induction lexemes with
  | nil => trivial
  | cons lexeme rest ih =>
    refine ⟨?_, ih h_both.2⟩
    have h_lexeme := h_both.1
    match lexeme with
    | .tree (.word text) => exact h_lexeme
    | .tree (.literal text) => exact h_lexeme
    | .tree (.punct char joint) =>
      obtain ⟨h_char, h_quote, h_slash⟩ := h_lexeme
      refine ⟨h_char, fun h_eq => ?_, fun h_eq h_joint => ?_⟩
      · obtain ⟨h_joint, token, behind, h_rest, h_token⟩ := h_quote h_eq
        cases rest with
        | nil => cases h_rest
        | cons next rest =>
          cases h_rest
          exact ⟨h_joint, token, rest, rfl, h_token⟩
      · obtain ⟨token, behind, h_rest, h_token⟩ := h_slash h_eq h_joint
        cases rest with
        | nil => cases h_rest
        | cons next rest =>
          cases h_rest
          exact ⟨token, rest, rfl, h_token⟩
    | .opening _ => trivial
    | .closing _ => trivial

/-! ## What the lexer reads -/

/-- No comment begins with a character that is no slash, or with a slash by itself. -/
theorem not_startsWith_comment {c : Char} {rest : List Char}
    (h_slash : c = '/' → ∀ d tail, rest = d :: tail → d ≠ '/' ∧ d ≠ '*') {mark : String}
    {d : Char} {more : List Char} (h_mark : mark.toList = '/' :: d :: more) (h_d : d ∈ ['/', '*']) :
    startsWith mark (c :: rest) = false := by
  cases h_starts : startsWith mark (c :: rest) with
  | false => rfl
  | true =>
    obtain ⟨tail, h_tail⟩ := List.isPrefixOf_iff_prefix.mp h_starts
    rw [h_mark] at h_tail
    cases h_tail
    obtain ⟨h_ne, h_ne'⟩ := h_slash rfl d (more ++ tail) rfl
    simp only [List.mem_cons, List.not_mem_nil, or_false] at h_d
    rcases h_d with rfl | rfl
    · exact absurd rfl h_ne
    · exact absurd rfl h_ne'

theorem skipBlanks_eq {c : Char} {rest : List Char} (h_c : isSeparator c = false)
    (h_slash : c = '/' → ∀ d tail, rest = d :: tail → d ≠ '/' ∧ d ≠ '*') :
    skipBlanks (c :: rest) = c :: rest := by
  have h_line : startsWith "//" (c :: rest) = false :=
    not_startsWith_comment h_slash rfl (by decide)
  have h_block : startsWith "/*" (c :: rest) = false :=
    not_startsWith_comment h_slash rfl (by decide)
  have h_empty : startsWith "/**/" (c :: rest) = false :=
    not_startsWith_comment h_slash rfl (by decide)
  rw [skipBlanks, skipBlanksWithin, startsLineComment, startsBlockComment, h_line, h_block, h_empty]
  simp [h_c]

theorem docComment?_eq_none {c : Char} {rest : List Char}
    (h_slash : c = '/' → ∀ d tail, rest = d :: tail → d ≠ '/' ∧ d ≠ '*') :
    docComment? (c :: rest) = none := by
  have h_line : startsWith "//!" (c :: rest) = false :=
    not_startsWith_comment h_slash rfl (by decide)
  have h_block : startsWith "/*!" (c :: rest) = false :=
    not_startsWith_comment h_slash rfl (by decide)
  have h_line' : startsWith "///" (c :: rest) = false :=
    not_startsWith_comment h_slash rfl (by decide)
  have h_block' : startsWith "/**" (c :: rest) = false :=
    not_startsWith_comment h_slash rfl (by decide)
  simp [docComment?, h_line, h_block, h_line', h_block']

theorem isProperWord_of_afterWord? {cs rest : List Char} (h_after : afterWord? cs = some rest) :
    IsProperWord (String.ofList (taken cs rest)) := by
  rw [afterWord?, Option.ite_none_left_eq_some] at h_after
  rcases afterIdentifier?_cases h_after.2 with ⟨name, h_name, rfl, -, -⟩ | ⟨name, rfl, h_name, h_never⟩
  · rw [taken_append]
    exact .inl (by rwa [String.toList_ofList])
  · rw [← List.cons_append, ← List.cons_append, taken_append]
    exact .inr ⟨name, String.toList_ofList, h_name, h_never⟩

/-- A leaf is a literal, punctuation or a word. -/
theorem leaf?_cases {cs rest : List Char} {token : TokenTree}
    (h_leaf : leaf? cs = some (token, rest)) :
    (afterLiteral? cs = some rest ∧ token = .literal (String.ofList (taken cs rest))) ∨
    punct? cs = some (token, rest) ∨
    (afterWord? cs = some rest ∧ token = .word (String.ofList (taken cs rest))) := by
  unfold leaf? at h_leaf
  split at h_leaf
  next h_literal =>
    cases h_leaf
    exact .inl ⟨h_literal, rfl⟩
  next =>
    split at h_leaf
    next h_punct =>
      rw [← h_leaf]
      exact .inr (.inl h_punct)
    next =>
      obtain ⟨rest', h_word, h_eq⟩ := Option.map_eq_some_iff.mp h_leaf
      cases h_eq
      exact .inr (.inr ⟨h_word, rfl⟩)

/-- What the lexer goes on with where a leaf begins at once. -/
theorem exists_first_of_scan? {steps : Nat} {c : Char} {tail : List Char} {others : List Lexeme}
    (h_scan : scan? steps (c :: tail) = some others) (h_c : isSeparator c = false)
    (h_mark : c ∉ ['/', '(', '[', '\x7b', ')', ']', '\x7d']) :
    ∃ token rest more, leaf? (c :: tail) = some (token, rest) ∧
      others.flatMap Lexeme.flatten = token.flatten ++ more := by
  have h_slash : c ≠ '/' := fun h_eq => h_mark (by simp [h_eq])
  cases steps with
  | zero => cases h_scan
  | succ steps =>
    rw [scan?, skipBlanks_eq h_c fun h_eq => absurd h_eq h_slash] at h_scan
    simp only [lexemes?_eq h_mark] at h_scan
    cases h_leaf : leaf? (c :: tail) with
    | none =>
      rw [h_leaf] at h_scan
      cases h_scan
    | some found =>
      obtain ⟨token, rest⟩ := found
      rw [h_leaf] at h_scan
      obtain ⟨more, -, rfl⟩ := Option.map_eq_some_iff.mp h_scan
      exact ⟨token, rest, more.flatMap Lexeme.flatten, rfl, rfl⟩

/-- Punctuation that begins no comment. -/
theorem startsPunct_eq_true {cs : List Char} (h_cs : startsPunct cs = true) :
    ∃ c rest, cs = c :: rest ∧ c ∈ punctuation ∧
      (c = '/' → ∀ d tail, rest = d :: tail → d ≠ '/' ∧ d ≠ '*') := by
  cases cs with
  | nil => cases h_cs
  | cons c rest =>
    simp only [startsPunct, Bool.and_eq_true, Bool.not_eq_true'] at h_cs
    obtain ⟨⟨h_mem, h_line⟩, h_block⟩ := h_cs
    refine ⟨c, rest, rfl, List.contains_iff_mem.mp h_mem, ?_⟩
    rintro rfl d tail rfl
    refine ⟨?_, ?_⟩
    · rintro rfl
      exact absurd h_line (by simp [startsWith])
    · rintro rfl
      exact absurd h_block (by simp [startsWith])

theorem punct?_cases {cs rest : List Char} {token : TokenTree}
    (h_punct : punct? cs = some (token, rest)) :
    (∃ behind, cs = '\'' :: rest ∧ token = .punct '\'' true ∧ afterIdentifier? rest = some behind ∧
      (startsWith "'" behind || (startsWith "#" behind && !startsWith "r#" rest)) = false) ∨
    (∃ c, cs = c :: rest ∧ c ≠ '\'' ∧ token = .punct c (startsPunct rest) ∧ startsPunct cs = true) := by
  unfold punct? at h_punct
  split at h_punct
  next rest' =>
    split at h_punct
    next => cases h_punct
    next behind h_behind =>
      rw [Option.ite_none_left_eq_some, Bool.not_eq_true] at h_punct
      cases h_punct.2
      exact .inl ⟨behind, rfl, rfl, h_behind, h_punct.1⟩
  next c rest' h_quote =>
    rw [Option.ite_none_right_eq_some] at h_punct
    cases h_punct.2
    exact .inr ⟨c, rfl, h_quote, rfl, h_punct.1⟩
  next => cases h_punct

theorem flatten_of_leaf? {cs rest : List Char} {token : TokenTree}
    (h_leaf : leaf? cs = some (token, rest)) : token.flatten = [.tree token] := by
  rcases leaf?_cases h_leaf with ⟨-, rfl⟩ | h_punct | ⟨-, rfl⟩
  · rfl
  · rcases punct?_cases h_punct with ⟨-, -, rfl, -⟩ | ⟨-, -, -, rfl, -⟩ <;> rfl
  · rfl

/-- The mark of a lifetime is followed by its name. -/
theorem isWritable_quote {steps : Nat} {rest behind : List Char} {others : List Lexeme}
    (h_scan : scan? steps rest = some others) (h_identifier : afterIdentifier? rest = some behind)
    (h_behind : (startsWith "'" behind || (startsWith "#" behind && !startsWith "r#" rest)) = false) :
    (Lexeme.tree (.punct '\'' true)).IsWritable (others.flatMap Lexeme.flatten) := by
  obtain ⟨c, tail, rfl, h_c⟩ : ∃ c tail, rest = c :: tail ∧ isIdentifierStart c = true := by
    rcases afterIdentifier?_cases h_identifier with
      ⟨_, ⟨c, tail, rfl, h_c, -⟩, rfl, -, -⟩ | ⟨name, rfl, -, -⟩
    · exact ⟨c, tail ++ behind, rfl, h_c⟩
    · exact ⟨'r', _, rfl, by decide⟩
  have h_continue := Unicode.isIdentifierContinue_of_start h_c
  have h_marks : ∀ mark ∈ ['/', '(', '[', '\x7b', ')', ']', '\x7d'],
      isIdentifierContinue mark = false := by
    decide
  obtain ⟨token, rest', more, h_leaf, h_others⟩ := exists_first_of_scan? h_scan
    (isSeparator_of_isContinue h_continue)
    fun h_mem => ne_of_isContinue h_continue (h_marks c h_mem) rfl
  rw [h_others, flatten_of_leaf? h_leaf]
  refine ⟨by decide, fun _ => ⟨rfl, token, more, rfl, ?_⟩, nofun⟩
  rcases leaf?_cases h_leaf with ⟨h_literal, rfl⟩ | h_punct | ⟨h_word, rfl⟩
  · exact ⟨trivial, followsQuote_literal h_literal h_identifier h_behind⟩
  · rw [punct?_of_isStart h_c] at h_punct
    cases h_punct
  · exact ⟨trivial, followsQuote_word (isProperWord_of_afterWord? h_word)⟩

/-- A slash that belongs together with what follows it is no beginning of a comment. -/
theorem isWritable_punct {steps : Nat} {c : Char} {rest : List Char} {others : List Lexeme}
    (h_scan : scan? steps rest = some others) (h_quote : c ≠ '\'')
    (h_c : startsPunct (c :: rest) = true) :
    (Lexeme.tree (.punct c (startsPunct rest))).IsWritable (others.flatMap Lexeme.flatten) := by
  obtain ⟨c, _, ⟨⟩, h_mem, h_slash⟩ := startsPunct_eq_true h_c
  refine ⟨h_mem, fun h_eq => absurd h_eq h_quote, fun h_eq h_joint => ?_⟩
  obtain ⟨d, tail, rfl, h_d, -⟩ := startsPunct_eq_true h_joint
  obtain ⟨h_ne, h_ne'⟩ := h_slash h_eq d tail rfl
  have h_all : ∀ d ∈ punctuation, isSeparator d = false ∧
      (d ≠ '/' → d ∉ ['/', '(', '[', '\x7b', ')', ']', '\x7d']) := by
    decide
  obtain ⟨token, rest', more, h_leaf, h_others⟩ :=
    exists_first_of_scan? h_scan (h_all d h_d).1 ((h_all d h_d).2 h_ne)
  rw [h_others, flatten_of_leaf? h_leaf]
  refine ⟨token, more, rfl, ?_⟩
  rcases leaf?_cases h_leaf with ⟨-, rfl⟩ | h_punct | ⟨-, rfl⟩
  · trivial
  · rcases punct?_cases h_punct with ⟨_, h_eq, rfl, -⟩ | ⟨_, h_eq, -, rfl, -⟩
    · exact ⟨by decide, by decide⟩
    · cases h_eq
      exact ⟨h_ne, h_ne'⟩
  · trivial

theorem areWritable_docAttribute (inner : Bool) (text : List Char) :
    AreWritable (((docAttribute inner text).map Lexeme.tree).flatMap Lexeme.flatten) := by
  have h_word : IsProperWord "doc" :=
    .inl ⟨'d', ['o', 'c'], rfl, by decide, List.all_eq_true.mp (by decide)⟩
  have h_literal := standsFree_docLiteral text
  have h_punct : ∀ c ∈ ['#', '!', '='], ∀ rest,
      (Lexeme.tree (.punct c false)).IsWritable rest := by
    intro c h_c rest
    have h_all : ∀ c ∈ ['#', '!', '='], c ∈ punctuation ∧ c ≠ '\'' := by decide
    exact ⟨(h_all c h_c).1, fun h_eq => absurd h_eq (h_all c h_c).2, nofun⟩
  cases inner with
  | false => exact ⟨h_punct _ (by simp) _, trivial, h_word, h_punct _ (by simp) _, h_literal, trivial, trivial⟩
  | true =>
    exact ⟨h_punct _ (by simp) _, h_punct _ (by simp) _, trivial, h_word, h_punct _ (by simp) _,
      h_literal, trivial, trivial⟩

theorem areWritable_of_lexemes? {steps : Nat} {cs rest : List Char} {found others : List Lexeme}
    (h_found : lexemes? cs = some (found, rest)) (h_scan : scan? steps rest = some others)
    (h_others : AreWritable (others.flatMap Lexeme.flatten)) :
    AreWritable ((found ++ others).flatMap Lexeme.flatten) := by
  rw [List.flatMap_append]
  unfold lexemes? at h_found
  split at h_found
  next _ inner text _ _ =>
    rw [Option.ite_none_right_eq_some] at h_found
    cases h_found.2
    exact (areWritable_docAttribute inner text).append h_others
  next =>
    cases h_found
    exact ⟨standsFree_missingLiteral, h_others⟩
  next =>
    split at h_found
    next => cases h_found
    next =>
      split at h_found
      next =>
        cases h_found
        exact ⟨trivial, h_others⟩
      next =>
        cases h_found
        exact ⟨trivial, h_others⟩
      next =>
        obtain ⟨⟨token, rest'⟩, h_leaf, h_eq⟩ := Option.map_eq_some_iff.mp h_found
        cases h_eq
        have h_flatten : [Lexeme.tree token].flatMap Lexeme.flatten = [.tree token] := by
          simp [Lexeme.flatten, flatten_of_leaf? h_leaf]
        rw [h_flatten]
        refine ⟨?_, h_others⟩
        rcases leaf?_cases h_leaf with ⟨h_literal, rfl⟩ | h_punct | ⟨h_word, rfl⟩
        · exact standsFree_literal h_literal
        · rcases punct?_cases h_punct with
            ⟨_, -, rfl, h_identifier, h_behind⟩ | ⟨_, h_eq, h_quote, rfl, h_c⟩
          · exact isWritable_quote h_scan h_identifier h_behind
          · rw [h_eq] at h_c
            exact isWritable_punct h_scan h_quote h_c
        · exact isProperWord_of_afterWord? h_word

theorem areWritable_of_scan? {steps : Nat} {cs : List Char} {found : List Lexeme}
    (h_found : scan? steps cs = some found) : AreWritable (found.flatMap Lexeme.flatten) := by
  induction steps generalizing cs found with
  | zero => cases h_found
  | succ steps ih =>
    rw [scan?] at h_found
    split at h_found
    next =>
      cases h_found
      trivial
    next =>
      split at h_found
      next => cases h_found
      next first rest h_first =>
        obtain ⟨others, h_others, rfl⟩ := Option.map_eq_some_iff.mp h_found
        exact areWritable_of_lexemes? h_first h_others (ih h_others)

end Lexer

/-- Trees that can be written one after the other. -/
def TokenTree.Writable (trees : List TokenTree) : Prop :=
  Lexer.AreWritable (flattenList trees)

/-- Whatever the lexer reads can be written. -/
theorem Lexer.writable_of_trees? {cs : List Char} {trees : List TokenTree}
    (h_trees : trees? cs = some trees) : TokenTree.Writable trees := by
  obtain ⟨lexemes, h_scan, h_nest⟩ := Option.bind_eq_some_iff.mp h_trees
  have h_flatten := flattenList_of_nest? h_nest
  rw [TokenTree.Writable, h_flatten]
  exact areWritable_of_scan? h_scan

end FieldDelta.Syntax
