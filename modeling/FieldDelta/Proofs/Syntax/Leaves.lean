import FieldDelta.Proofs.Naming
import FieldDelta.Proofs.Quoting
import FieldDelta.Proofs.Syntax.Literals

/-! # Words and literals are read back

A word or a literal that is written in front of a stop is read back as what it is.

* `Lexer.StandsFree` — a token that is read back in front of any stop;
* `Lexer.FollowsQuote` — one that can be the name of a lifetime;
* `Lexer.standsFree_word`, `Lexer.standsFree_literal` — what the lexer takes for words and literals
  stands free;
* `Lexer.standsFree_docLiteral`, `Lexer.standsFree_index` — and so do the literals that are written
  for documentation comments and for the indices of fields.
-/

namespace FieldDelta.Syntax.Lexer

open Unicode (CodeRange isIdentifierStart isIdentifierContinue inRanges xidContinue)

/-! ## Tokens that stand free -/

/-- The characters next to which spaces are left out. -/
def spacedMarks : List Char :=
  stopMarks ++ ['&', '[', '(', '-']

/-- Neither end of the text is a character next to which spaces are left out. -/
def Edged (cs : List Char) : Prop :=
  (∃ first tail, cs = first :: tail ∧ first ∉ spacedMarks) ∧
    ∃ init last, cs = init ++ [last] ∧ EndsLiteral last

/-- A token can be written next to any stop: it is read back, and neither end of its text looks
    like something else together with what stands there. -/
structure StandsFree (tree : TokenTree) : Prop where
  first : ∃ c tail, tree.chars = c :: tail ∧ c ∉ stopMarks ∧ c ∉ ['/', '*', '\ufeff'] ∧ isSeparator c = false
  edges : tree = .literal missingLiteral ∨ Edged tree.chars
  reads : ∀ rest, Stops rest → lexemes? (tree.chars ++ rest) = some ([.tree tree], rest)

/-- A token can be written behind a single quote, which is read as the mark of a lifetime then. -/
structure FollowsQuote (tree : TokenTree) : Prop where
  standsFree : StandsFree tree
  reads : ∀ rest, Stops rest →
    leaf? ('\'' :: (tree.chars ++ rest)) = some (.punct '\'' true, tree.chars ++ rest)

/-- Ranges that hold all separators, and no characters of names. -/
def separatorRanges : List CodeRange :=
  [(0x09, 0x20), (0x80, 0xA0), (0x1680, 0x1680), (0x2000, 0x200B), (0x200E, 0x2030),
   (0x205F, 0x205F), (0x3000, 0x3000)]

theorem inRanges_of_isSeparator {c : Char} (h_c : isSeparator c = true) :
    inRanges separatorRanges c = true := by
  rw [isSeparator, Bool.or_eq_true, Bool.or_eq_true] at h_c
  rcases h_c with (h_blank | h_left) | h_right
  · simp only [Text.isBlank, Bool.or_eq_true, Bool.and_eq_true, decide_eq_true_eq,
      beq_iff_eq] at h_blank
    simp only [inRanges, separatorRanges, List.any_cons, List.any_nil, Bool.or_eq_true,
      Bool.and_eq_true, decide_eq_true_eq, Bool.false_eq_true, or_false]
    omega
  · rw [beq_iff_eq.mp h_left]
    decide
  · rw [beq_iff_eq.mp h_right]
    decide

/-- No range of the characters of names meets one of the separators. -/
theorem separatorRanges_apart :
    xidContinue.all (fun range => separatorRanges.all fun separator =>
      range.2.blt separator.1 || separator.2.blt range.1) = true := by
  decide +kernel

theorem isSeparator_of_isContinue {c : Char} (h_c : isIdentifierContinue c = true) :
    isSeparator c = false := by
  cases h_separator : isSeparator c with
  | false => rfl
  | true =>
    obtain ⟨separator, h_mem, h_within⟩ := List.any_eq_true.mp (inRanges_of_isSeparator h_separator)
    simp only [Bool.and_eq_true, decide_eq_true_eq] at h_within
    by_cases h_ascii : c.toNat < 0x80
    · have h_below : ∀ separator ∈ separatorRanges, separator.1 < 0x80 → separator.2 ≤ 0x20 := by
        decide
      have h_none : ∀ n < 0x21, isIdentifierContinue (Char.ofNat n) = false := by decide
      have h_last := h_below _ h_mem (by omega)
      have h_code := h_none c.toNat (by omega)
      rw [Char.ofNat_toNat, h_c] at h_code
      cases h_code
    · rw [isIdentifierContinue, if_neg h_ascii] at h_c
      obtain ⟨range, h_range, h_code⟩ := List.any_eq_true.mp h_c
      have h_apart := List.all_eq_true.mp (List.all_eq_true.mp separatorRanges_apart _ h_range) _ h_mem
      simp only [Bool.or_eq_true, Nat.blt_eq] at h_apart
      simp only [Bool.and_eq_true, decide_eq_true_eq] at h_code
      omega

/-- The characters of names are none of those with a meaning of their own. -/
theorem ne_of_isContinue {c mark : Char} (h_c : isIdentifierContinue c = true)
    (h_mark : isIdentifierContinue mark = false) : c ≠ mark := by
  rintro rfl
  rw [h_c] at h_mark
  cases h_mark

theorem first_of_isContinue {c : Char} (h_c : isIdentifierContinue c = true) :
    c ∉ stopMarks ∧ c ∉ ['/', '*', '\ufeff'] ∧ isSeparator c = false := by
  have h_marks : ∀ mark ∈ stopMarks ++ ['/', '*', '\ufeff'], isIdentifierContinue mark = false := by
    decide +kernel
  refine ⟨fun h_mem => ?_, fun h_mem => ?_, isSeparator_of_isContinue h_c⟩
  · exact ne_of_isContinue h_c (h_marks c (List.mem_append_left _ h_mem)) rfl
  · exact ne_of_isContinue h_c (h_marks c (List.mem_append_right _ h_mem)) rfl

theorem not_mem_spacedMarks {c : Char} (h_c : isIdentifierContinue c = true) : c ∉ spacedMarks := by
  have h_marks : ∀ mark ∈ spacedMarks, isIdentifierContinue mark = false := by decide
  exact fun h_mem => ne_of_isContinue h_c (h_marks c h_mem) rfl

/-- Where a leaf begins that is neither a comment nor a delimiter, it is the one lexeme. -/
theorem lexemes?_eq {c : Char} {rest : List Char} (h_c : c ∉ ['/', '(', '[', '\x7b', ')', ']', '\x7d']) :
    lexemes? (c :: rest) = (leaf? (c :: rest)).map fun (token, rest) => ([.tree token], rest) := by
  simp only [List.mem_cons, List.not_mem_nil, or_false, not_or] at h_c
  obtain ⟨h_slash, h_paren, h_bracket, h_brace, h_paren', h_bracket', h_brace'⟩ := h_c
  have h_doc : docComment? (c :: rest) = none := by
    simp [docComment?, startsWith, Ne.symm h_slash]
  have h_missing : after? missingLiteral (c :: rest) = none := by
    simp [after?, missingLiteral, Ne.symm h_paren]
  rw [lexemes?, h_doc, h_missing]
  simp [Delimiter.ofOpening?, Delimiter.ofClosing?, h_paren, h_bracket, h_brace, h_paren',
    h_bracket', h_brace']

theorem lexemes?_of_isContinue {c : Char} {rest : List Char} (h_c : isIdentifierContinue c = true) :
    lexemes? (c :: rest) = (leaf? (c :: rest)).map fun (token, rest) => ([.tree token], rest) := by
  have h_marks : ∀ mark ∈ ['/', '(', '[', '\x7b', ')', ']', '\x7d'],
      isIdentifierContinue mark = false := by
    decide
  exact lexemes?_eq fun h_mem => ne_of_isContinue h_c (h_marks c h_mem) rfl

/-! ## Words -/

/-- Names that have no raw form. -/
def neverRaw : List String :=
  ["_", "super", "self", "Self", "crate"]

/-- An identifier, or a raw one that the lexer takes for such. -/
def IsProperWord (text : String) : Prop :=
  IsIdentifier text.toList ∨ ∃ name, text.toList = 'r' :: '#' :: name ∧ IsIdentifier name ∧
    neverRaw.contains (String.ofList name) = false

/-- A run of characters of one sort ends at the first of another sort. -/
theorem eq_of_append_eq_append {p : Char → Bool} {front front' rest tail : List Char} {mark : Char}
    (h_front : ∀ c ∈ front, p c = true) (h_rest : EndsBefore p rest)
    (h_front' : ∀ c ∈ front', p c = true) (h_mark : p mark = false)
    (h_eq : front ++ rest = front' ++ mark :: tail) : front = front' ∧ rest = mark :: tail := by
  have h_drop := congrArg (List.dropWhile p) h_eq
  rw [dropWhile_append_of_stops h_front h_rest, dropWhile_append_of_stops h_front'] at h_drop
  · rw [h_drop] at h_eq
    exact ⟨List.append_cancel_right h_eq, h_drop⟩
  · rintro _ _ ⟨⟩
    exact h_mark

/-- Letters in front of a quote or a hash, as strings and characters begin. -/
def BeginsQuoted (cs : List Char) : Prop :=
  ∃ letters mark tail, cs = letters ++ mark :: tail ∧ mark ∈ ['"', '#', '\''] ∧
    ∀ c ∈ letters, isIdentifierContinue c = true

theorem BeginsQuoted.cons {c : Char} {cs : List Char} (h_cs : BeginsQuoted cs)
    (h_c : isIdentifierContinue c = true) : BeginsQuoted (c :: cs) := by
  obtain ⟨letters, mark, tail, rfl, h_mark, h_letters⟩ := h_cs
  exact ⟨c :: letters, mark, tail, rfl, h_mark, List.forall_mem_cons.mpr ⟨h_c, h_letters⟩⟩

theorem beginsQuoted_mark {mark : Char} {tail : List Char} (h_mark : mark ∈ ['"', '#', '\'']) :
    BeginsQuoted (mark :: tail) :=
  ⟨[], mark, tail, rfl, h_mark, nofun⟩

theorem beginsQuoted_of_afterRaw? {alphabet : Alphabet} {cs rest : List Char}
    (h_after : afterRaw? alphabet cs = some rest) : BeginsQuoted cs := by
  cases cs with
  | nil => cases h_after
  | cons c cs =>
    by_cases h_hash : c = '#'
    · exact beginsQuoted_mark (by simp [h_hash])
    · unfold afterRaw? at h_after
      rw [List.takeWhile_cons_of_neg (by simpa using h_hash)] at h_after
      dsimp only [List.length_nil, List.drop_zero] at h_after
      split at h_after
      next h_eq =>
        rw [(List.cons.inj h_eq).1]
        exact beginsQuoted_mark (by simp)
      next => cases h_after

theorem beginsQuoted_of_afterString? {cs rest : List Char} (h_after : afterString? cs = some rest) :
    BeginsQuoted cs := by
  have h_r : isIdentifierContinue 'r' = true := by decide
  have h_b : isIdentifierContinue 'b' = true := by decide
  have h_c : isIdentifierContinue 'c' = true := by decide
  have h_quote : ∀ tail, BeginsQuoted ('"' :: tail) := fun _ => beginsQuoted_mark (by simp)
  unfold afterString? at h_after
  dsimp only at h_after
  split at h_after
  next => exact h_quote _
  next => exact (beginsQuoted_of_afterRaw? h_after).cons h_r
  next => exact (h_quote _).cons h_b
  next => exact ((beginsQuoted_of_afterRaw? h_after).cons h_r).cons h_b
  next => exact (h_quote _).cons h_c
  next => exact ((beginsQuoted_of_afterRaw? h_after).cons h_r).cons h_c
  next => cases h_after

theorem beginsQuoted_of_afterCharacter? {cs rest : List Char}
    (h_after : afterCharacter? cs = some rest) : BeginsQuoted cs := by
  have h_b : isIdentifierContinue 'b' = true := by decide
  have h_quote : ∀ tail, BeginsQuoted ('\'' :: tail) := fun _ => beginsQuoted_mark (by simp)
  unfold afterCharacter? at h_after
  split at h_after
  next => exact (h_quote _).cons h_b
  next => exact h_quote _
  next => cases h_after

/-- A name in front of a stop does not begin like a string or a character. -/
theorem not_beginsQuoted {name rest : List Char}
    (h_name : ∀ c ∈ name, isIdentifierContinue c = true) (h_stops : Stops rest) :
    ¬ BeginsQuoted (name ++ rest) := by
  rintro ⟨letters, mark, tail, h_eq, h_mark, h_letters⟩
  have h_marks : ∀ mark ∈ ['"', '#', '\''], isIdentifierContinue mark = false ∧ mark ∉ stopMarks := by
    decide
  have h_rest : EndsBefore isIdentifierContinue rest := by
    rintro c tail rfl
    exact h_stops.not_continue
  obtain ⟨-, rfl⟩ := eq_of_append_eq_append h_name h_rest h_letters (h_marks mark h_mark).1 h_eq
  exact (h_marks mark h_mark).2 h_stops

/-- No number begins like an identifier. -/
theorem afterInteger?_of_isStart {c : Char} (h_c : isIdentifierStart c = true) (cs : List Char) :
    afterFloat? (c :: cs) = none ∧ afterInteger? (c :: cs) = none := by
  have h_digit : ¬ c.isDigit = true := by
    rw [Naming.isDigit_of_isIdentifierStart h_c]
    decide
  refine ⟨by rw [afterFloat?, if_neg h_digit], ?_⟩
  cases h_after : afterInteger? (c :: cs) with
  | none => rfl
  | some rest =>
    obtain ⟨first, text, h_eq, h_first, -⟩ := eq_append_of_afterInteger? h_after
    cases h_eq
    exact absurd h_first h_digit

theorem punct?_of_isStart {c : Char} (h_c : isIdentifierStart c = true) (cs : List Char) :
    punct? (c :: cs) = none := by
  have h_continue := Unicode.isIdentifierContinue_of_start h_c
  have h_marks : ∀ mark ∈ punctuation, isIdentifierContinue mark = false := by decide
  have h_mark : punctuation.contains c = false := by
    cases h_contains : punctuation.contains c with
    | false => rfl
    | true =>
      exact absurd rfl (ne_of_isContinue h_continue
        (h_marks c (List.contains_iff_mem.mp h_contains)))
  have h_quote : c ≠ '\'' := ne_of_isContinue h_continue (by decide)
  unfold punct?
  split
  next h_eq => exact absurd (List.cons.inj h_eq).1 h_quote
  next => rw [startsPunct.eq_def]; simp_all
  next => rfl

theorem beginsQuoted_append {mark : List Char} (rest : List Char)
    (h_mark : BeginsQuoted mark) : BeginsQuoted (mark ++ rest) := by
  obtain ⟨letters, quote, tail, rfl, h_quote, h_letters⟩ := h_mark
  exact ⟨letters, quote, tail ++ rest, by simp, h_quote, h_letters⟩

theorem beginsQuoted_of_mem_literalMarks :
    ∀ mark ∈ "r#" :: literalMarks, BeginsQuoted mark.toList := by
  have h_all : ∀ mark ∈ "r#" :: literalMarks,
      (mark.toList.dropWhile isIdentifierContinue).head? ∈ [some '"', some '#', some '\''] := by
    decide
  intro mark h_mark
  have h_head := h_all mark h_mark
  have h_split := List.takeWhile_append_dropWhile (p := isIdentifierContinue) (l := mark.toList)
  cases h_drop : mark.toList.dropWhile isIdentifierContinue with
  | nil =>
    rw [h_drop] at h_head
    simp at h_head
  | cons quote tail =>
    rw [h_drop] at h_head h_split
    exact ⟨_, quote, tail, h_split.symm, by simpa using h_head, fun c h_c => List.mem_takeWhile_imp h_c⟩

theorem startsWith_eq_false {mark : String} (h_mark : mark ∈ "r#" :: literalMarks) {cs : List Char}
    (h_cs : ¬ BeginsQuoted cs) : startsWith mark cs = false := by
  cases h_starts : startsWith mark cs with
  | false => rfl
  | true =>
    obtain ⟨rest, rfl⟩ := List.isPrefixOf_iff_prefix.mp h_starts
    exact absurd (beginsQuoted_append rest (beginsQuoted_of_mem_literalMarks mark h_mark)) h_cs

theorem afterLiteral?_of_isStart {cs : List Char} {c : Char} (h_c : isIdentifierStart c = true)
    (h_string : afterString? (c :: cs) = none) (h_character : afterCharacter? (c :: cs) = none) :
    afterLiteral? (c :: cs) = none := by
  obtain ⟨h_float, h_integer⟩ := afterInteger?_of_isStart h_c cs
  rw [afterLiteral?, h_string, h_character, h_float, h_integer]
  rfl

/-- The mark of a raw identifier does not begin a raw string. -/
theorem afterLiteral?_rawMark {c : Char} (h_c : isIdentifierStart c = true) (cs : List Char) :
    afterLiteral? ('r' :: '#' :: c :: cs) = none := by
  have h_continue := Unicode.isIdentifierContinue_of_start h_c
  have h_hash : c ≠ '#' := ne_of_isContinue h_continue (by decide)
  have h_quote : c ≠ '"' := ne_of_isContinue h_continue (by decide)
  refine afterLiteral?_of_isStart (by decide) ?_ rfl
  simp only [afterString?, afterRaw?]
  rw [List.takeWhile_cons_of_pos rfl, List.takeWhile_cons_of_neg (by simpa using h_hash)]
  simp only [List.length_cons, List.length_nil, List.drop_succ_cons, List.drop_zero]
  split
  next h_eq => exact absurd (List.cons.inj h_eq).1 h_quote
  next => rfl

theorem leaf?_of_afterWord? {cs rest : List Char} {c : Char} (h_c : isIdentifierStart c = true)
    (h_literal : afterLiteral? (c :: cs) = none) (h_word : afterWord? (c :: cs) = some rest) :
    leaf? (c :: cs) = some (.word (String.ofList (taken (c :: cs) rest)), rest) := by
  rw [leaf?, h_literal, punct?_of_isStart h_c, h_word]
  rfl

/-- What is read of a word in front of a stop. -/
theorem reads_word {text : String} (h_text : IsProperWord text) {rest : List Char}
    (h_stops : Stops rest) :
    leaf? (text.toList ++ rest) = some (.word text, rest) ∧
      afterIdentifier? (text.toList ++ rest) = some rest := by
  have h_rest : EndsBefore isIdentifierContinue rest := by
    rintro c tail rfl
    exact h_stops.not_continue
  have h_taken : String.ofList (taken (text.toList ++ rest) rest) = text := by
    rw [taken_append, String.ofList_toList]
  rcases h_text with h_name | ⟨name, h_text, h_name, h_never⟩
  · have h_plain := not_beginsQuoted (IsSuffix.isContinue (.inr h_name)) h_stops
    have h_identifier : afterIdentifier? (text.toList ++ rest) = some rest := by
      have h_raw : after? "r#" (text.toList ++ rest) = none := by
        have h_starts := startsWith_eq_false (.head _) h_plain
        rw [startsWith] at h_starts
        rw [after?, h_starts]
        rfl
      rw [afterIdentifier?, h_raw]
      exact afterName?_append h_name h_rest
    have h_word : afterWord? (text.toList ++ rest) = some rest := by
      rw [afterWord?, if_neg, h_identifier]
      rw [Bool.not_eq_true, List.any_eq_false]
      intro mark h_mark
      rw [startsWith_eq_false (.tail _ h_mark) h_plain]
      decide
    have h_string : afterString? (text.toList ++ rest) = none := by
      cases h_after : afterString? (text.toList ++ rest) with
      | none => rfl
      | some _ => exact absurd (beginsQuoted_of_afterString? h_after) h_plain
    have h_character : afterCharacter? (text.toList ++ rest) = none := by
      cases h_after : afterCharacter? (text.toList ++ rest) with
      | none => rfl
      | some _ => exact absurd (beginsQuoted_of_afterCharacter? h_after) h_plain
    refine ⟨?_, h_identifier⟩
    obtain ⟨first, tail, h_first, h_start, -⟩ := h_name
    rw [h_first, List.cons_append] at h_word h_string h_character h_taken ⊢
    rw [leaf?_of_afterWord? h_start (afterLiteral?_of_isStart h_start h_string h_character) h_word,
      h_taken]
  · obtain ⟨first, tail, rfl, h_start, h_tail⟩ := h_name
    have h_name : IsIdentifier (first :: tail) := ⟨first, tail, rfl, h_start, h_tail⟩
    have h_continue := Unicode.isIdentifierContinue_of_start h_start
    have h_hash : first ≠ '#' := ne_of_isContinue h_continue (by decide)
    have h_quote : first ≠ '"' := ne_of_isContinue h_continue (by decide)
    have h_identifier : afterIdentifier? (text.toList ++ rest) = some rest := by
      have h_raw : after? "r#" (text.toList ++ rest) = some ((first :: tail) ++ rest) := by
        rw [h_text]
        rfl
      have h_excluded : ["_", "super", "self", "Self", "crate"].contains
          (String.ofList (first :: tail)) = false := h_never
      simp only [afterIdentifier?, h_raw, afterName?_append h_name h_rest, taken_append, h_excluded]
      rfl
    refine ⟨?_, h_identifier⟩
    rw [h_text] at h_identifier h_taken ⊢
    have h_word : afterWord? ('r' :: '#' :: (first :: tail ++ rest)) = some rest := by
      rw [afterWord?, if_neg, ← h_identifier]
      · rfl
      · simp [literalMarks, startsWith, Ne.symm h_hash, Ne.symm h_quote]
    exact (leaf?_of_afterWord? (by decide) (afterLiteral?_rawMark h_start _) h_word).trans
      (congrArg (fun text => some (TokenTree.word text, rest)) h_taken)

/-- The text of an identifier, plain or raw, and what stops it. -/
theorem afterIdentifier?_cases {cs rest : List Char} (h_after : afterIdentifier? cs = some rest) :
    (∃ name, IsIdentifier name ∧ cs = name ++ rest ∧ EndsBefore isIdentifierContinue rest ∧
      startsWith "r#" cs = false) ∨
    (∃ name, cs = 'r' :: '#' :: (name ++ rest) ∧ IsIdentifier name ∧
      neverRaw.contains (String.ofList name) = false) := by
  have h_ends : ∀ {cs}, afterName? cs = some rest → EndsBefore isIdentifierContinue rest := by
    intro cs h_name
    cases cs with
    | nil => cases h_name
    | cons c cs =>
      rw [afterName?, Option.ite_none_right_eq_some] at h_name
      cases h_name.2
      exact endsBefore_dropWhile _ _
  unfold afterIdentifier? at h_after
  split at h_after
  next h_plain =>
    obtain ⟨name, h_name, h_cs⟩ := eq_append_of_afterName? h_after
    rw [after?, ite_eq_right_iff] at h_plain
    exact .inl ⟨name, h_name, h_cs, h_ends h_after, Bool.not_eq_true _ ▸
      fun h_starts => Option.some_ne_none _ (h_plain h_starts)⟩
  next behind h_raw =>
    rw [after?, Option.ite_none_right_eq_some] at h_raw
    obtain ⟨h_mark, h_behind⟩ := h_raw
    obtain ⟨behind', rfl⟩ := List.isPrefixOf_iff_prefix.mp h_mark
    have h_behind : behind' = behind := Option.some.inj h_behind
    subst h_behind
    split at h_after
    next => cases h_after
    next rest' h_rest =>
      rw [Option.ite_none_left_eq_some] at h_after
      obtain ⟨h_never, h_eq⟩ := h_after
      cases h_eq
      obtain ⟨name, h_name, rfl⟩ := eq_append_of_afterName? h_rest
      rw [taken_append, Bool.not_eq_true] at h_never
      exact .inr ⟨name, rfl, h_name, h_never⟩

/-- A quote in front of a name that no quote follows is the mark of a lifetime. -/
theorem leaf?_quote {cs behind : List Char} (h_identifier : afterIdentifier? cs = some behind)
    (h_character : afterCharacter? ('\'' :: cs) = none)
    (h_behind : (startsWith "'" behind || (startsWith "#" behind && !startsWith "r#" cs)) = false) :
    leaf? ('\'' :: cs) = some (.punct '\'' true, cs) := by
  have h_literal : afterLiteral? ('\'' :: cs) = none := by
    have h_string : afterString? ('\'' :: cs) = none := rfl
    have h_float : afterFloat? ('\'' :: cs) = none := rfl
    have h_integer : afterInteger? ('\'' :: cs) = none := rfl
    rw [afterLiteral?, h_string, h_character, h_float, h_integer]
    rfl
  simp only [leaf?, h_literal, punct?, h_identifier, h_behind, Bool.false_eq_true, if_false]

theorem Stops.not_startsWith {rest : List Char} (h_stops : Stops rest) {mark : Char}
    (h_mark : mark ∉ stopMarks) {cs : String} (h_cs : cs.toList = [mark]) :
    startsWith cs rest = false := by
  rw [startsWith, h_cs]
  cases rest with
  | nil => rfl
  | cons c tail =>
    have h_ne : mark ≠ c := by
      rintro rfl
      exact h_mark h_stops
    rw [List.isPrefixOf_cons_cons, beq_eq_false_iff_ne.mpr h_ne, Bool.false_and]

/-- The second character behind a quote is none, if it belongs to a name or to what is behind it. -/
theorem afterCharacter?_quote {c : Char} {cs : List Char} (h_c : c ≠ '\\')
    (h_cs : cs.head? ≠ some '\'') : afterCharacter? ('\'' :: c :: cs) = none := by
  rw [afterCharacter?, afterCharBody?, if_neg (by simp)]
  · unfold afterClosingQuote?
    split
    next => exact absurd rfl h_cs
    next => rfl
  · exact h_c

/-- A word is read back, and so it is behind a quote. -/
theorem followsQuote_word {text : String} (h_text : IsProperWord text) :
    FollowsQuote (.word text) := by
  have h_marks : isIdentifierContinue '\'' = false ∧ isIdentifierContinue '\\' = false := by
    decide
  obtain ⟨first, tail, h_first, h_start, h_tail⟩ : ∃ first tail, text.toList = first :: tail ∧
      isIdentifierStart first = true ∧ ∀ c ∈ tail, isIdentifierContinue c = true ∨ c = '#' := by
    rcases h_text with ⟨first, tail, h_first, h_start, h_tail⟩ |
      ⟨name, h_text, ⟨first, tail, rfl, h_start, h_tail⟩, -⟩
    · exact ⟨first, tail, h_first, h_start, fun c h_c => .inl (h_tail c h_c)⟩
    · refine ⟨'r', '#' :: first :: tail, h_text, by decide, ?_⟩
      refine List.forall_mem_cons.mpr ⟨.inr rfl, List.forall_mem_cons.mpr
        ⟨.inl (Unicode.isIdentifierContinue_of_start h_start), fun c h_c => .inl (h_tail c h_c)⟩⟩
  have h_continue := Unicode.isIdentifierContinue_of_start h_start
  have h_last : ∃ init c, text.toList = init ++ [c] ∧ EndsLiteral c := by
    rw [h_first]
    obtain rfl | ⟨init, c, rfl⟩ := List.eq_nil_or_concat tail
    · exact ⟨[], first, rfl, .inl h_continue⟩
    · refine ⟨first :: init, c, by simp, ?_⟩
      rcases h_tail c (by simp) with h_c | rfl
      · exact .inl h_c
      · exact .inr (by decide)
  refine ⟨⟨⟨first, tail, h_first, first_of_isContinue h_continue⟩, .inr ⟨?_, h_last⟩,
    fun rest h_stops => ?_⟩, fun rest h_stops => ?_⟩
  · exact ⟨first, tail, h_first, not_mem_spacedMarks h_continue⟩
  · obtain ⟨h_leaf, -⟩ := reads_word h_text h_stops
    simp only [TokenTree.chars]
    rw [h_first, List.cons_append] at h_leaf ⊢
    rw [lexemes?_of_isContinue h_continue, h_leaf]
    rfl
  · obtain ⟨-, h_identifier⟩ := reads_word h_text h_stops
    refine leaf?_quote h_identifier ?_ ?_
    · simp only [TokenTree.chars]
      rw [h_first, List.cons_append]
      refine afterCharacter?_quote (ne_of_isContinue h_continue h_marks.2) ?_
      cases tail with
      | nil =>
        cases rest with
        | nil => nofun
        | cons c rest =>
          rintro ⟨⟩
          have h_mark : '\'' ∉ stopMarks := by decide
          exact h_mark h_stops
      | cons c tail =>
        rintro ⟨⟩
        rcases h_tail _ (.head _) with h_c | h_c
        · rw [h_marks.1] at h_c
          cases h_c
        · cases h_c
    · have h_quote : startsWith "'" rest = false := h_stops.not_startsWith (by decide) rfl
      have h_hash : startsWith "#" rest = false := h_stops.not_startsWith (by decide) rfl
      rw [h_quote, h_hash]
      rfl

/-! ## Literals -/

theorem isContinue_of_isDigit {c : Char} (h_c : c.isDigit = true) :
    isIdentifierContinue c = true :=
  isContinue_of_isDigitOrUnderscore (by rw [isDigitOrUnderscore, h_c, Bool.true_or])

/-- A literal begins with a quote, with a letter in front of one, or with a digit. -/
theorem first_of_afterLiteral? {c : Char} {cs rest : List Char}
    (h_after : afterLiteral? (c :: cs) = some rest) :
    BeginsQuoted (c :: cs) ∧ c ∈ ['"', 'r', 'b', 'c', '\''] ∨ c.isDigit = true := by
  unfold afterLiteral? at h_after
  cases h_string : afterString? (c :: cs) with
  | some _ =>
    refine .inl ⟨beginsQuoted_of_afterString? h_string, ?_⟩
    unfold afterString? at h_string
    dsimp only at h_string
    split at h_string
    all_goals
      first
      | cases h_string
      | simp [(List.cons.inj ‹c :: cs = _›).1]
  | none =>
    cases h_character : afterCharacter? (c :: cs) with
    | some _ =>
      refine .inl ⟨beginsQuoted_of_afterCharacter? h_character, ?_⟩
      unfold afterCharacter? at h_character
      split at h_character
      all_goals
        first
        | cases h_character
        | simp [(List.cons.inj ‹c :: cs = _›).1]
    | none =>
      rw [h_string, h_character, Option.none_or, Option.none_or] at h_after
      right
      cases h_float : afterFloat? (c :: cs) with
      | some _ =>
        by_contra h_letter
        rw [afterFloat?, if_neg h_letter] at h_float
        cases h_float
      | none =>
        rw [h_float, Option.none_or] at h_after
        obtain ⟨first, text, h_eq, h_first, -⟩ := eq_append_of_afterInteger? h_after
        cases h_eq
        exact h_first

theorem first_of_literal {c : Char} (h_c : c ∈ ['"', 'r', 'b', 'c', '\''] ∨ c.isDigit = true) :
    (c ∉ stopMarks ∧ c ∉ ['/', '*', '\ufeff'] ∧ isSeparator c = false) ∧ c ∉ spacedMarks ∧
      c ∉ ['/', '(', '[', '\x7b', ')', ']', '\x7d'] := by
  rcases h_c with h_mark | h_digit
  · have h_all : ∀ c ∈ ['"', 'r', 'b', 'c', '\''],
        (c ∉ stopMarks ∧ c ∉ ['/', '*', '\ufeff'] ∧ isSeparator c = false) ∧ c ∉ spacedMarks ∧
          c ∉ ['/', '(', '[', '\x7b', ')', ']', '\x7d'] := by
      decide
    exact h_all c h_mark
  · have h_continue := isContinue_of_isDigit h_digit
    have h_marks : ∀ mark ∈ ['/', '(', '[', '\x7b', ')', ']', '\x7d'],
        isIdentifierContinue mark = false := by
      decide
    exact ⟨first_of_isContinue h_continue, not_mem_spacedMarks h_continue,
      fun h_mem => ne_of_isContinue h_continue (h_marks c h_mem) rfl⟩

/-- The text of a literal, and what is read of it in front of a stop. -/
theorem exists_literal {cs rest : List Char} (h_after : afterLiteral? cs = some rest) :
    ∃ text, (TokenTree.literal (String.ofList (taken cs rest))).chars = text ∧ cs = text ++ rest ∧
      (∃ init last, text = init ++ [last] ∧ EndsLiteral last) ∧
      ∀ rest', Stops rest' → afterLiteral? (text ++ rest') = some rest' := by
  obtain ⟨front, last, rfl, h_ends, h_same⟩ := standsAlone_afterLiteral? h_after
  have h_append : ∀ rest, front ++ last :: rest = (front ++ [last]) ++ rest := by simp
  refine ⟨front ++ [last], ?_, h_append rest, ⟨front, last, rfl, h_ends⟩, fun rest' h_stops => ?_⟩
  · rw [TokenTree.chars, String.toList_ofList, h_append, taken_append]
  · rw [← h_append]
    exact h_same rest' h_stops

/-- A literal is read back. -/
theorem standsFree_literal {cs rest : List Char} (h_after : afterLiteral? cs = some rest) :
    StandsFree (.literal (String.ofList (taken cs rest))) := by
  obtain ⟨text, h_text, rfl, ⟨init, last, h_last, h_ends⟩, h_same⟩ := exists_literal h_after
  obtain ⟨c, tail, h_first⟩ : ∃ c tail, text = c :: tail := by
    refine List.exists_cons_of_ne_nil ?_
    rw [h_last]
    simp
  obtain ⟨h_begins, h_spaced, h_mark⟩ := first_of_literal (c := c) <| by
    rw [h_first, List.cons_append] at h_after
    exact (first_of_afterLiteral? h_after).imp_left And.right
  refine ⟨⟨c, tail, h_text.trans h_first, h_begins⟩, .inr ⟨⟨c, tail, h_text.trans h_first, h_spaced⟩,
    init, last, h_text.trans h_last, h_ends⟩, fun rest' h_stops => ?_⟩
  have h_literal := h_same rest' h_stops
  have h_leaf : leaf? (text ++ rest') =
      some (.literal (String.ofList (taken (text ++ rest) rest)), rest') := by
    rw [leaf?, h_literal]
    simp only [taken_append]
  rw [h_text]
  rw [h_first, List.cons_append] at h_leaf ⊢
  rw [lexemes?_eq h_mark, h_leaf]
  rfl

/-- A literal that was read behind the mark of a lifetime is a string with letters in front, and
    can stand there again. -/
theorem followsQuote_literal {cs rest behind : List Char} (h_after : afterLiteral? cs = some rest)
    (h_identifier : afterIdentifier? cs = some behind)
    (h_behind : (startsWith "'" behind || (startsWith "#" behind && !startsWith "r#" cs)) = false) :
    FollowsQuote (.literal (String.ofList (taken cs rest))) := by
  refine ⟨standsFree_literal h_after, fun rest' h_stops => ?_⟩
  obtain ⟨text, h_text, rfl, ⟨init, last, h_last, -⟩, h_same⟩ := exists_literal h_after
  rw [h_text]
  rcases afterIdentifier?_cases h_identifier with
    ⟨name, h_name, h_cs, h_ends, h_plain⟩ | ⟨name, h_cs, ⟨first, tail, rfl, h_start, -⟩, -⟩
  · rw [h_plain] at h_behind
    have h_chars := IsSuffix.isContinue (.inr h_name)
    obtain ⟨first, more, h_first, h_start, -⟩ := id h_name
    have h_begins : BeginsQuoted text := by
      have h_alone := h_same [] trivial
      obtain ⟨c, tail, rfl⟩ : ∃ c tail, text = c :: tail :=
        List.exists_cons_of_ne_nil (by simp [h_last])
      rw [h_first] at h_cs
      cases (List.cons.inj h_cs).1
      rw [List.append_nil] at h_alone
      refine ((first_of_afterLiteral? h_alone).resolve_right fun h_digit => ?_).1
      rw [Naming.isDigit_of_isIdentifierStart h_start] at h_digit
      cases h_digit
    -- Behind the name there is a quote, which belongs to the literal.
    obtain ⟨letters, mark, tail, rfl, h_mark, h_letters⟩ := h_begins
    have h_marks : ∀ mark ∈ ['"', '#', '\''], isIdentifierContinue mark = false := by decide
    rw [List.append_assoc, List.cons_append] at h_cs
    obtain ⟨rfl, rfl⟩ :=
      eq_of_append_eq_append h_chars h_ends h_letters (h_marks mark h_mark) h_cs.symm
    obtain rfl : mark = '"' := by
      simp only [List.mem_cons, List.not_mem_nil, or_false] at h_mark
      rcases h_mark with rfl | rfl | rfl
      · rfl
      · simp [startsWith] at h_behind
      · simp [startsWith] at h_behind
    rw [List.append_assoc, List.cons_append]
    have h_quoted : EndsBefore isIdentifierContinue ('"' :: (tail ++ rest')) := by
      rintro _ _ ⟨⟩
      exact h_marks '"' (by simp)
    have h_raw : after? "r#" (name ++ '"' :: (tail ++ rest')) = none := by
      refine if_neg fun h_starts => ?_
      obtain ⟨left, h_left⟩ := List.isPrefixOf_iff_prefix.mp h_starts
      have h_r : ∀ c ∈ ['r'], isIdentifierContinue c = true := by decide
      have h_eq : name ++ '"' :: (tail ++ rest') = ['r'] ++ '#' :: left := h_left.symm
      cases (eq_of_append_eq_append h_chars h_quoted h_r (h_marks '#' (by simp)) h_eq).2
    refine leaf?_quote (?_ : afterIdentifier? _ = some ('"' :: (tail ++ rest'))) ?_ rfl
    · rw [afterIdentifier?, h_raw]
      exact afterName?_append h_name h_quoted
    · rw [h_first] at h_chars ⊢
      obtain ⟨h_continue, h_more⟩ := List.forall_mem_cons.mp h_chars
      refine afterCharacter?_quote (ne_of_isContinue h_continue (by decide)) ?_
      cases more with
      | nil => nofun
      | cons c more =>
        intro h_c
        exact ne_of_isContinue (h_more c (.head _)) (h_marks '\'' (by simp)) (Option.some.inj h_c)
  · rw [h_cs] at h_after
    rw [List.cons_append, afterLiteral?_rawMark h_start] at h_after
    cases h_after

/-! ## Literals that are written -/

theorem standsFree_missingLiteral : StandsFree (.literal missingLiteral) where
  first := ⟨'(', "/*ERROR*/)".toList, rfl, by decide, by decide, by decide⟩
  edges := .inl rfl
  reads _ _ := rfl

theorem codePoint?_hexDigits (n value digits : Nat) (behind : List Char)
    (h_digits : digits + (Text.hexDigits n).length ≤ 6) :
    ∃ scale, codePoint? value digits (Text.hexDigits n ++ behind) =
      codePoint? (value * scale + n) (digits + (Text.hexDigits n).length) behind := by
  have h_digit : ∀ digit < 16, hexValue? digit.digitChar = some digit := by decide
  induction n using Nat.strongRecOn generalizing value digits behind with
  | ind n ih =>
    rw [Text.hexDigits_eq] at h_digits ⊢
    split at h_digits
    next h_small =>
      rw [if_pos h_small]
      refine ⟨16, ?_⟩
      simp only [List.length_cons, List.length_nil] at h_digits ⊢
      rw [List.singleton_append, codePoint?, h_digit n h_small]
      simp only
      rw [if_neg (by omega)]
    next h_large =>
      rw [if_neg h_large]
      simp only [List.length_append, List.length_cons, List.length_nil] at h_digits ⊢
      obtain ⟨scale, h_read⟩ := ih (n / 16) (by omega) value digits
        ((n % 16).digitChar :: behind) (by omega)
      refine ⟨scale * 16, ?_⟩
      rw [List.append_assoc, List.singleton_append, h_read, codePoint?,
        h_digit (n % 16) (by omega)]
      simp only
      rw [if_neg (by omega), ← Nat.mul_assoc, Nat.add_mul, Nat.add_assoc, Nat.mul_comm (n / 16),
        Nat.div_add_mod, Nat.add_assoc]

theorem escaped?_escapeCodePoint (c : Char) (behind : List Char) :
    escaped? .text ('u' :: '\x7b' :: (Text.hexDigits c.toNat ++ '\x7d' :: behind)) =
      some (c.toNat, behind) := by
  have h_valid : c.toNat.isValidChar := c.valid
  have h_length : (Text.hexDigits c.toNat).length ≤ 6 := by
    refine (Nat.length_toDigits_le_iff (by decide) (by decide)).mpr ?_
    rcases h_valid with h_low | ⟨-, h_high⟩
    · omega
    · omega
  have h_pos : (Text.hexDigits c.toNat).length ≠ 0 := by
    rw [Ne, List.length_eq_zero_iff]
    exact Text.hexDigits_ne_nil _
  have h_point : codePoint? 0 0 (Text.hexDigits c.toNat ++ '\x7d' :: behind) =
      some (c.toNat, behind) := by
    obtain ⟨scale, h_read⟩ :=
      codePoint?_hexDigits c.toNat 0 0 ('\x7d' :: behind) (by omega)
    rw [h_read, codePoint?]
    have h_closing : hexValue? '\x7d' = none := by decide
    rw [h_closing]
    simp only
    rw [if_neg (by omega), if_neg (by decide), if_pos (by simpa using h_valid)]
    simp
  simp only [escaped?, h_point]

/-- A character that is written in quotes is read in one step. -/
theorem afterCooked?_escapeChar (c : Char) (steps : Nat) (behind : List Char) :
    afterCooked? .text (steps + 1) (Text.escapeChar '"' c ++ behind) =
      afterCooked? .text steps behind := by
  rcases Text.escapeChar_cases c with ⟨letter, h_letter, h_form⟩ | h_form | ⟨h_backslash, -, h_form⟩
  · have h_all : ∀ entry ∈ Text.letters,
        entry.2 ∈ ['"', '\\', 'n', 't', 'r', '0'] := by decide
    have h_mem := h_all _ h_letter
    rw [h_form]
    simp only [List.mem_cons, List.not_mem_nil, or_false] at h_mem
    rcases h_mem with rfl | rfl | rfl | rfl | rfl | rfl <;> rfl
  · rw [h_form, Text.escapeCodePoint]
    simp only [List.append_assoc, List.cons_append, List.nil_append]
    rw [afterCooked?]
    · simp only [escaped?_escapeCodePoint, Option.bind_some]
    · intro _ h_eq
      cases h_eq
    · intro _ h_return
      cases h_return
  · have h_quote : c ≠ '"' := by
      rintro rfl
      cases h_form
    have h_return : c ≠ '\r' := by
      rintro rfl
      cases h_form
    have h_admits : Alphabet.text.admits c = true := rfl
    rw [h_form, List.singleton_append, afterCooked?, if_pos h_admits]
    · exact h_quote
    · exact fun _ h_eq => absurd h_eq h_return
    · exact h_return
    · exact h_backslash

theorem length_le_docLiteral (text : List Char) : text.length ≤ (docLiteral text).length := by
  fun_induction docLiteral text
  case case1 => exact Nat.le_refl 0
  case case2 rest octal ih =>
    cases octal <;> simp <;> omega
  case case3 c rest h_zero ih =>
    have h_pos := List.length_pos_iff.mpr (Text.escapeChar_ne_nil c)
    simp
    omega

theorem afterCooked?_docLiteral (text : List Char) (steps : Nat) (behind : List Char) :
    afterCooked? .text (text.length + steps) (docLiteral text ++ behind) =
      afterCooked? .text steps behind := by
  fun_induction docLiteral text
  case case1 => simp
  case case2 rest octal ih =>
    -- A zero is written in one of two ways, and each is one escape.
    rw [List.append_assoc, List.length_cons, Nat.add_right_comm]
    cases octal <;> exact ih
  case case3 c rest h_zero ih =>
    rw [List.append_assoc, List.length_cons, Nat.add_right_comm, afterCooked?_escapeChar, ih]

/-- The literal that a documentation comment stands for is read back. -/
theorem standsFree_docLiteral (text : List Char) :
    StandsFree (.literal (String.ofList ('"' :: docLiteral text ++ ['"']))) := by
  have h_steps := length_le_docLiteral text
  have h_string : afterString? ('"' :: (docLiteral text ++ ['"'])) = some [] := by
    have h_length : ('"' :: (docLiteral text ++ ['"'])).length =
        text.length + ((docLiteral text).length - text.length + 1 + 1) := by
      simp
      omega
    rw [afterString?]
    simp only [h_length, afterCooked?_docLiteral]
    rfl
  have h_literal : afterLiteral? ('"' :: docLiteral text ++ ['"']) = some [] := by
    rw [List.cons_append, afterLiteral?, h_string, Option.some_or]
  have h_free := standsFree_literal h_literal
  rwa [← List.append_nil (_ ++ _), taken_append] at h_free

theorem afterDigits?_of_isDigit {first : Char} {rest : List Char}
    (h_digits : ∀ c ∈ first :: rest, c.isDigit = true) :
    afterDigits? 10 true (first :: rest) = some [] := by
  have h_step : ∀ c empty rest, c.isDigit = true →
      afterDigits? 10 empty (c :: rest) = afterDigits? 10 false rest := by
    intro c empty rest h_c
    have h_underscore : c ≠ '_' := by
      rintro rfl
      cases h_c
    have h_value : c.toNat - '0'.toNat < 10 := by
      simp only [Char.isDigit, Bool.and_eq_true, decide_eq_true_eq, ge_iff_le,
        UInt32.le_iff_toNat_le] at h_c
      have h_code : c.toNat ≤ 57 := h_c.2
      have h_zero : '0'.toNat = 48 := rfl
      omega
    rw [afterDigits?, if_neg h_underscore, hexValue?, if_pos h_c]
    simp only [if_pos h_value]
  rw [h_step first true rest (h_digits first (.head _))]
  have h_rest := (List.forall_mem_cons.mp h_digits).2
  induction rest with
  | nil => rfl
  | cons c rest ih =>
    obtain ⟨h_c, h_rest'⟩ := List.forall_mem_cons.mp h_rest
    rw [h_step c false rest h_c]
    exact ih (List.forall_mem_cons.mpr ⟨h_digits first (.head _), h_rest'⟩) h_rest'

/-- The index of a field is read back. -/
theorem standsFree_index (index : Nat) : StandsFree (.literal (toString index)) := by
  obtain ⟨first, rest, h_text, h_first, h_rest⟩ := Naming.exists_digit_toString index
  have h_digits : ∀ c ∈ first :: rest, c.isDigit = true := List.forall_mem_cons.mpr ⟨h_first, h_rest⟩
  obtain ⟨h_string, h_character⟩ := afterString?_of_isDigit h_first rest
  have h_float : afterFloat? (first :: rest) = none := by
    have h_decimal : IsDecimal (first :: rest) :=
      ⟨⟨first, rest, rfl, h_first⟩, fun c h_c => by rw [isDigitOrUnderscore, h_digits c h_c]; rfl⟩
    have h_plain : afterFloat? (first :: rest ++ []) = none := 
      afterFloat?_plain h_decimal (endsBefore_nil _)
    rwa [List.append_nil] at h_plain
  have h_integer : afterInteger? (first :: rest) = some [] := by
    unfold afterInteger?
    split
    next h_eq => exact absurd (h_digits 'x' (by simp [h_eq])) (by decide)
    next h_eq => exact absurd (h_digits 'o' (by simp [h_eq])) (by decide)
    next h_eq => exact absurd (h_digits 'b' (by simp [h_eq])) (by decide)
    next =>
      rw [afterDigits?_of_isDigit h_digits]
      rfl
  have h_literal : afterLiteral? (first :: rest) = some [] := by
    rw [afterLiteral?, h_string, h_character, h_float, h_integer]
    rfl
  have h_free := standsFree_literal h_literal
  rwa [← List.append_nil (_ :: _), taken_append, ← h_text, String.ofList_toList] at h_free

end FieldDelta.Syntax.Lexer
