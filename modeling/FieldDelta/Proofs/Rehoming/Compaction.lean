import FieldDelta.Proofs.Rehoming.Pieces
import FieldDelta.Proofs.Text.Substitution
import FieldDelta.Rehoming

/-! # Substitutions that keep tokens

The text of a type is made compact by substitutions in the text as a whole.  They leave out spaces
and put some in, next to characters that stand apart from words and literals, so that they can be
made piece by piece.  Inside a literal they change the literal.

* `IsSpelling` — what the substitutions have in common;
* `Piece.replaceFrom` — a substitution piece by piece;
* `Piece.Spaced.replaceFrom`, `Piece.lexemesOf_replaceFrom` — it keeps pieces apart, and what they
  stand for;
* `Piece.exists_compact` — and so do all substitutions together.
-/

namespace FieldDelta.Syntax

open Lexer (Lexeme StandsFree FollowsQuote Stops Edged EndsLiteral stopMarks spacedMarks
  missingLiteral punctuation)

/-! ## The substitutions -/

/-- A substitution that drops and adds spaces only, next to characters that stand apart from words
    and literals. -/
structure IsSpelling (pattern replacement : List Char) : Prop where
  nonempty : pattern ≠ [] ∧ replacement ≠ []
  spaced : ∀ c ∈ pattern ++ replacement, c ∈ spacedMarks
  tail : ∀ c ∈ pattern.tail, c ∈ stopMarks
  visible : replacement.filter (· != ' ') = pattern.filter (· != ' ')
  head : ∀ c ∈ replacement.take 1, c ∈ stopMarks ∨ pattern.head? = some c
  missing : ')' ∉ pattern.dropLast ∧
    Text.replaceFrom pattern replacement 0 missingLiteral.toList = missingLiteral.toList

theorem isSpelling_of_mem {pair : String × String} (h_pair : pair ∈ spellings) :
    IsSpelling pair.1.toList pair.2.toList where
  nonempty := by revert pair; decide
  spaced := by revert pair; decide
  tail := by revert pair; decide
  visible := by revert pair; decide
  head := by revert pair; decide
  missing := by revert pair; decide

/-- The outcome of substitutions that are made one after the other. -/
def compact (pairs : List (String × String)) (cs : List Char) : List Char :=
  pairs.foldl (fun cs pair => Text.replaceAll pair.1 pair.2 cs) cs

namespace Piece

variable {pattern replacement : List Char} {pieces rest : List Piece} {piece : Piece}
  {tree : TokenTree} {text : List Char}

theorem Solid.first (h_text : Solid text) : ∃ c tail, text = c :: tail ∧ c ∉ stopMarks := by
  rcases h_text with rfl | ⟨⟨c, tail, rfl, h_c⟩, -⟩
  · exact ⟨'(', _, rfl, by decide⟩
  · exact ⟨c, tail, rfl, fun h_mem => h_c (List.mem_append_left _ h_mem)⟩

theorem EndsLiteral.not_mem_spacedMarks {c : Char} (h_c : EndsLiteral c) : c ∉ spacedMarks := by
  rcases h_c with h_continue | h_mark
  · exact Lexer.not_mem_spacedMarks h_continue
  · have h_all : ∀ c ∈ ['"', '\'', '#', '.'], c ∉ spacedMarks := by decide
    exact h_all c h_mark

/-- No occurrence of the pattern begins in a word or literal and ends behind it. -/
theorem Solid.apart (h_text : Solid text) (h_spelling : IsSpelling pattern replacement)
    (cs : List Char) : Text.Apart pattern text cs := by
  intro init last first tail h_last h_cs h_mem
  rcases h_text with rfl | ⟨-, init', last', rfl, h_ends⟩
  · have h_split : "(/*ERROR*/".toList ++ [')'] = init ++ [last] := h_last
    obtain ⟨-, h_eq⟩ := List.append_inj' h_split rfl
    cases h_eq
    exact absurd h_mem h_spelling.missing.1
  · obtain ⟨-, h_eq⟩ := List.append_inj' h_last rfl
    cases h_eq
    exact absurd (h_spelling.spaced _ (List.mem_append_left _ (List.dropLast_subset _ h_mem)))
      (EndsLiteral.not_mem_spacedMarks h_ends)

/-- A substitution changes neither end of a word or literal. -/
theorem Solid.replaceFrom (h_text : Solid text) (h_spelling : IsSpelling pattern replacement) :
    Solid (Text.replaceFrom pattern replacement 0 text) := by
  have h_pattern := h_spelling.nonempty.1
  have h_mem : ∀ c ∈ pattern, c ∈ spacedMarks := fun c h_c =>
    h_spelling.spaced c (List.mem_append_left _ h_c)
  rcases h_text with rfl | ⟨⟨first, tail, h_first, h_spaced⟩, init, last, h_last, h_ends⟩
  · exact .inl h_spelling.missing.2
  · refine .inr ⟨?_, ?_⟩
    · rw [h_first, Text.replaceFrom_cons
        (Text.not_isPrefix_cons h_pattern fun h_c => h_spaced (h_mem first h_c))]
      exact ⟨first, _, rfl, h_spaced⟩
    · rw [h_last, Text.replaceFrom_concat h_pattern fun h_c =>
        EndsLiteral.not_mem_spacedMarks h_ends (h_mem last h_c)]
      exact ⟨_, last, rfl, h_ends⟩

/-! ## Substitution piece by piece -/

/-- Whether the pieces begin with the given characters. -/
def startsMarks : List Char → List Piece → Bool
  | [], _ => true
  | c :: pattern, mark d :: rest => c == d && startsMarks pattern rest
  | _, _ => false

/-- A substitution inside a piece. -/
def replace (pattern replacement : List Char) : Piece → Piece
  | mark c => mark c
  | atom tree text => atom tree (Text.replaceFrom pattern replacement 0 text)

/-- A substitution among and inside pieces; `skip` counts the pieces that still belong to the
    occurrence of `pattern` last replaced. -/
def replaceFrom (pattern replacement : List Char) (skip : Nat) : List Piece → List Piece
  | [] => []
  | piece :: rest =>
    match skip with
    | k + 1 => replaceFrom pattern replacement k rest
    | 0 =>
      if startsMarks pattern (piece :: rest) then
        replacement.map mark ++ replaceFrom pattern replacement (pattern.length - 1) rest
      else piece.replace pattern replacement :: replaceFrom pattern replacement 0 rest

theorem eq_append_of_startsMarks (h_starts : startsMarks pattern pieces = true) :
    ∃ behind, pieces = pattern.map mark ++ behind := by
  fun_induction startsMarks pattern pieces
  case case1 pieces => exact ⟨pieces, rfl⟩
  case case2 c pattern d rest ih =>
    rw [Bool.and_eq_true, beq_iff_eq] at h_starts
    obtain ⟨rfl, h_starts⟩ := h_starts
    obtain ⟨behind, rfl⟩ := ih h_starts
    exact ⟨behind, rfl⟩
  case case3 => cases h_starts

/-- A word or literal begins with none of the characters that go on with a pattern. -/
theorem startsMarks_of_isPrefix (h_pattern : ∀ c ∈ pattern, c ∈ stopMarks) (h_spaced : Spaced pieces)
    (h_begins : pattern <+: charsOf pieces) : startsMarks pattern pieces = true := by
  fun_induction startsMarks pattern pieces
  case case1 => rfl
  case case2 c pattern d rest ih =>
    obtain ⟨h_c, h_rest⟩ := List.cons_prefix_cons.mp h_begins
    obtain ⟨-, h_pattern⟩ := List.forall_mem_cons.mp h_pattern
    rw [h_c, beq_self_eq_true, Bool.true_and]
    exact ih h_pattern h_spaced.2 h_rest
  case case3 pattern pieces h_nil h_mark =>
    cases pattern with
    | nil => exact absurd rfl h_nil
    | cons c pattern =>
      cases pieces with
      | nil => exact absurd (List.prefix_nil.mp h_begins) (List.cons_ne_nil c pattern)
      | cons piece rest =>
        cases piece with
        | mark d => exact absurd rfl (h_mark c pattern d rest rfl)
        | atom tree text =>
          obtain ⟨d, tail, rfl, h_d⟩ := h_spaced.1.2.2.1.first
          rw [charsOf_cons, Piece.chars, List.cons_append] at h_begins
          rw [← (List.cons_prefix_cons.mp h_begins).1] at h_d
          exact absurd (h_pattern c (.head _)) h_d

theorem startsMarks_atom (h_pattern : pattern ≠ []) :
    startsMarks pattern (atom tree text :: rest) = false := by
  cases pattern with
  | nil => exact absurd rfl h_pattern
  | cons c pattern => rfl

/-- What stands behind the first character of an occurrence. -/
theorem rest_eq {behind : List Piece} (h_pattern : pattern ≠ [])
    (h_pieces : piece :: rest = pattern.map mark ++ behind) :
    rest = pattern.tail.map mark ++ behind := by
  cases pattern with
  | nil => exact absurd rfl h_pattern
  | cons c pattern => exact (List.cons.inj h_pieces).2

theorem charsOf_marks (cs : List Char) : charsOf (cs.map mark) = cs := by
  induction cs with
  | nil => rfl
  | cons c cs ih => rw [List.map_cons, charsOf_cons, ih]; rfl

theorem charsOf_replaceFrom (h_spelling : IsSpelling pattern replacement) {skip : Nat}
    (h_spaced : Spaced pieces) (h_skip : ∀ piece ∈ pieces.take skip, ∃ c, piece = mark c) :
    charsOf (replaceFrom pattern replacement skip pieces) =
      Text.replaceFrom pattern replacement skip (charsOf pieces) := by
  have h_pattern := h_spelling.nonempty.1
  induction pieces generalizing skip with
  | nil => rfl
  | cons piece rest ih =>
    cases skip with
    | succ skip =>
      obtain ⟨⟨c, rfl⟩, h_rest⟩ := List.forall_mem_cons.mp h_skip
      exact ih h_spaced.2 h_rest
    | zero =>
      have h_rest : charsOf (replaceFrom pattern replacement 0 rest) =
          Text.replaceFrom pattern replacement 0 (charsOf rest) := ih h_spaced.2 nofun
      cases piece with
      | atom tree text =>
        rw [replaceFrom, startsMarks_atom h_pattern, if_neg Bool.false_ne_true, charsOf_cons,
          h_rest, charsOf_cons]
        exact (Text.replaceFrom_append (h_spaced.1.2.2.1.apart h_spelling _) (Nat.zero_le _)).symm
      | mark c =>
        rw [replaceFrom, charsOf_cons]
        by_cases h_starts : startsMarks pattern (mark c :: rest) = true
        · obtain ⟨behind, h_pieces⟩ := eq_append_of_startsMarks h_starts
          have h_marks : ∀ piece ∈ rest.take (pattern.length - 1), ∃ c, piece = mark c := by
            rw [rest_eq h_pattern h_pieces]
            intro piece h_mem
            rw [List.take_left' (by simp)] at h_mem
            obtain ⟨d, -, rfl⟩ := List.mem_map.mp h_mem
            exact ⟨d, rfl⟩
          have h_begins : pattern <+: c :: charsOf rest := by
            refine ⟨charsOf behind, ?_⟩
            have h_chars := congrArg charsOf h_pieces
            rw [charsOf_append, charsOf_marks] at h_chars
            exact h_chars.symm
          rw [if_pos h_starts, charsOf_append, charsOf_marks, ih h_spaced.2 h_marks]
          exact (if_pos (List.isPrefixOf_iff_prefix.mpr h_begins)).symm
        · rw [if_neg h_starts, charsOf_cons, h_rest]
          refine (Text.replaceFrom_cons fun h_begins => h_starts ?_).symm
          cases pattern with
          | nil => exact absurd rfl h_pattern
          | cons d pattern =>
            obtain ⟨rfl, h_behind⟩ := List.cons_prefix_cons.mp h_begins
            rw [startsMarks, beq_self_eq_true, Bool.true_and]
            exact startsMarks_of_isPrefix h_spelling.tail h_spaced.2 h_behind

theorem lexemesOf_marks (cs : List Char) :
    lexemesOf (cs.map mark) = lexemesOf ((cs.filter (· != ' ')).map mark) := by
  induction cs with
  | nil => rfl
  | cons c cs ih =>
    by_cases h_c : c = ' '
    · rw [h_c, List.map_cons, lexemesOf_space, ih]
      rfl
    · rw [List.filter_cons_of_pos (by simpa using h_c), List.map_cons, List.map_cons,
        ← List.singleton_append, lexemesOf_append, ih, ← lexemesOf_append, List.singleton_append]

/-- A substitution keeps the lexemes. -/
theorem lexemesOf_replaceFrom (h_spelling : IsSpelling pattern replacement) (skip : Nat)
    (pieces : List Piece) :
    lexemesOf (replaceFrom pattern replacement skip pieces) = lexemesOf (pieces.drop skip) := by
  have h_pattern := h_spelling.nonempty.1
  induction pieces generalizing skip with
  | nil => cases skip <;> rfl
  | cons piece rest ih =>
    cases skip with
    | succ skip => exact ih skip
    | zero =>
      rw [replaceFrom, List.drop_zero]
      by_cases h_starts : startsMarks pattern (piece :: rest) = true
      · obtain ⟨behind, h_pieces⟩ := eq_append_of_startsMarks h_starts
        have h_behind : rest.drop (pattern.length - 1) = behind := by
          rw [rest_eq h_pattern h_pieces]
          exact List.drop_left' (by simp)
        rw [if_pos h_starts, lexemesOf_append, ih, h_behind, h_pieces, lexemesOf_append,
          lexemesOf_marks, h_spelling.visible, ← lexemesOf_marks]
      · have h_piece : lexemesOf [piece.replace pattern replacement] = lexemesOf [piece] := by
          cases piece <;> rfl
        rw [if_neg h_starts, ← List.singleton_append, lexemesOf_append, ih, h_piece,
          ← lexemesOf_append]
        rfl

/-- A word or literal in the outcome of a substitution is one of those in front of it. -/
theorem mem_of_mem_replaceFrom {skip : Nat} {text : List Char}
    (h_mem : atom tree text ∈ replaceFrom pattern replacement skip pieces) :
    ∃ text', atom tree text' ∈ pieces ∧ text = Text.replaceFrom pattern replacement 0 text' := by
  induction pieces generalizing skip with
  | nil => cases h_mem
  | cons piece rest ih =>
    have h_rest {skip : Nat} (h_mem : atom tree text ∈ replaceFrom pattern replacement skip rest) :
        ∃ text', atom tree text' ∈ piece :: rest ∧
          text = Text.replaceFrom pattern replacement 0 text' := by
      obtain ⟨text', h_mem, h_text⟩ := ih h_mem
      exact ⟨text', .tail _ h_mem, h_text⟩
    cases skip with
    | succ skip => exact h_rest h_mem
    | zero =>
      rw [replaceFrom] at h_mem
      split at h_mem
      · rcases List.mem_append.mp h_mem with h_mem | h_mem
        · obtain ⟨c, -, h_eq⟩ := List.mem_map.mp h_mem
          cases h_eq
        · exact h_rest h_mem
      · rcases List.mem_cons.mp h_mem with h_eq | h_mem
        · cases piece with
          | mark c => cases h_eq
          | atom tree text' =>
            cases h_eq
            exact ⟨text', .head _, rfl⟩
        · exact h_rest h_mem

/-- A character stays in front, or one that may stand behind anything takes its place. -/
theorem head_replaceFrom (h_spelling : IsSpelling pattern replacement) (c : Char)
    (rest : List Piece) :
    ∃ d tail, replaceFrom pattern replacement 0 (mark c :: rest) = mark d :: tail ∧
      (d ∈ stopMarks ∨ d = c) := by
  rw [replaceFrom]
  split
  next h_starts =>
    obtain ⟨behind, h_pieces⟩ := eq_append_of_startsMarks h_starts
    obtain ⟨d, more, h_replacement⟩ := List.exists_cons_of_ne_nil h_spelling.nonempty.2
    have h_head := h_spelling.head d (by rw [h_replacement]; exact .head _)
    rw [h_replacement]
    refine ⟨d, _, rfl, h_head.imp_right fun h_head => ?_⟩
    obtain ⟨first, tail, rfl⟩ := List.exists_cons_of_ne_nil h_spelling.nonempty.1
    cases h_head
    cases h_pieces
    rfl
  next => exact ⟨c, _, rfl, .inr rfl⟩

theorem replaceFrom_atom (h_spelling : IsSpelling pattern replacement) :
    replaceFrom pattern replacement 0 (atom tree text :: rest) =
      atom tree (Text.replaceFrom pattern replacement 0 text) ::
        replaceFrom pattern replacement 0 rest := by
  rw [replaceFrom, startsMarks_atom h_spelling.nonempty.1]
  rfl

theorem Admits.replaceFrom (h_spelling : IsSpelling pattern replacement)
    (h_admits : piece.Admits rest) :
    (piece.replace pattern replacement).Admits (replaceFrom pattern replacement 0 rest) := by
  cases piece with
  | atom tree text =>
    obtain ⟨h_atom, h_free, h_solid, h_next⟩ := h_admits
    refine ⟨h_atom, h_free, h_solid.replaceFrom h_spelling, fun next tail h_rest => ?_⟩
    cases rest with
    | nil => cases h_rest
    | cons first more =>
      obtain ⟨c, h_c, rfl⟩ := h_next first more rfl
      obtain ⟨d, tail, h_head, h_d⟩ := head_replaceFrom h_spelling c more
      rw [h_head] at h_rest
      cases h_rest
      refine ⟨d, ?_, rfl⟩
      rcases h_d with h_d | rfl
      · exact h_d
      · exact h_c
  | mark c =>
    obtain ⟨h_c, h_quote, h_slash⟩ := h_admits
    refine ⟨h_c, fun h_eq => ?_, fun h_eq d tail h_rest => ?_⟩
    · obtain ⟨tree, text, tail, rfl, h_tree⟩ := h_quote h_eq
      exact ⟨tree, _, _, replaceFrom_atom h_spelling, h_tree⟩
    · cases rest with
      | nil => cases h_rest
      | cons first more =>
        cases first with
        | atom tree text =>
          rw [replaceFrom_atom h_spelling] at h_rest
          cases h_rest
        | mark e =>
          obtain ⟨d', tail', h_head, h_d⟩ := head_replaceFrom h_spelling e more
          rw [h_head] at h_rest
          cases h_rest
          rcases h_d with h_d | rfl
          · have h_all : ∀ d ∈ stopMarks, d ≠ '/' ∧ d ≠ '*' := by decide
            exact h_all d h_d
          · exact h_slash h_eq d more rfl

/-- Brackets, and characters next to which spaces are left out, stand next to anything. -/
theorem Spaced.marks {cs : List Char} (h_cs : ∀ c ∈ cs, c ∈ brackets ++ spacedMarks)
    (h_rest : Spaced rest) : Spaced (cs.map mark ++ rest) := by
  have h_all : ∀ c ∈ brackets ++ spacedMarks,
      c ∈ ' ' :: brackets ++ punctuation ∧ c ≠ '\'' ∧ c ≠ '/' := by
    decide
  induction cs with
  | nil => exact h_rest
  | cons c cs ih =>
    obtain ⟨h_c, h_cs⟩ := List.forall_mem_cons.mp h_cs
    obtain ⟨h_mark, h_quote, h_slash⟩ := h_all c h_c
    exact ⟨⟨h_mark, fun h_eq => absurd h_eq h_quote, fun h_eq => absurd h_eq h_slash⟩, ih h_cs⟩

/-- A substitution keeps pieces apart. -/
theorem Spaced.replaceFrom (h_spelling : IsSpelling pattern replacement) (skip : Nat)
    (h_spaced : Spaced pieces) : Spaced (replaceFrom pattern replacement skip pieces) := by
  induction pieces generalizing skip with
  | nil => trivial
  | cons piece rest ih =>
    cases skip with
    | succ skip => exact ih skip h_spaced.2
    | zero =>
      rw [Piece.replaceFrom]
      split
      · refine .marks (fun c h_c => ?_) (ih _ h_spaced.2)
        exact List.mem_append_right _ (h_spelling.spaced c (List.mem_append_right _ h_c))
      · exact ⟨h_spaced.1.replaceFrom h_spelling, ih 0 h_spaced.2⟩

/-! ## All substitutions -/

theorem exists_compact {pairs : List (String × String)} (h_pairs : ∀ pair ∈ pairs, pair ∈ spellings)
    (written : List Char → List Char) (h_spaced : Spaced pieces)
    (h_written : ∀ tree text, atom tree text ∈ pieces → text = written tree.chars) :
    ∃ found, Spaced found ∧ charsOf found = compact pairs (charsOf pieces) ∧
      lexemesOf found = lexemesOf pieces ∧
      ∀ tree text, atom tree text ∈ found → text = compact pairs (written tree.chars) := by
  induction pairs generalizing pieces written with
  | nil => exact ⟨pieces, h_spaced, rfl, rfl, h_written⟩
  | cons pair pairs ih =>
    obtain ⟨h_pair, h_pairs⟩ := List.forall_mem_cons.mp h_pairs
    have h_spelling := isSpelling_of_mem h_pair
    have h_chars : charsOf (replaceFrom pair.1.toList pair.2.toList 0 pieces) =
        Text.replaceAll pair.1 pair.2 (charsOf pieces) :=
      charsOf_replaceFrom h_spelling h_spaced nofun
    have h_lexemes := lexemesOf_replaceFrom h_spelling 0 pieces
    obtain ⟨found, h_found, h_chars', h_lexemes', h_text⟩ :=
      ih h_pairs (fun cs => Text.replaceAll pair.1 pair.2 (written cs))
        (h_spaced.replaceFrom h_spelling 0) fun tree text h_mem => by
          obtain ⟨text', h_mem', rfl⟩ := mem_of_mem_replaceFrom h_mem
          rw [h_written tree text' h_mem']
          rfl
    refine ⟨found, h_found, ?_, h_lexemes'.trans h_lexemes, h_text⟩
    rw [h_chars', h_chars]
    rfl

end Piece

/-- A text without the characters that substitutions are about stays as it is. -/
theorem compact_eq_self {pairs : List (String × String)} (h_pairs : ∀ pair ∈ pairs, pair ∈ spellings)
    {cs : List Char} (h_cs : ∀ c ∈ cs, c ∉ spacedMarks) : compact pairs cs = cs := by
  induction pairs with
  | nil => rfl
  | cons pair pairs ih =>
    obtain ⟨h_pair, h_pairs⟩ := List.forall_mem_cons.mp h_pairs
    have h_spelling := isSpelling_of_mem h_pair
    have h_same : Text.replaceAll pair.1 pair.2 cs = cs :=
      Text.replaceFrom_eq_self h_spelling.nonempty.1 fun c h_c h_mem =>
        h_cs c h_c (h_spelling.spaced c (List.mem_append_left _ h_mem))
    rw [compact, List.foldl_cons, h_same]
    exact ih h_pairs

end FieldDelta.Syntax
