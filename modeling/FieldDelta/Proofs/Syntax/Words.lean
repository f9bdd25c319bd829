import FieldDelta.Candidate
import FieldDelta.Proofs.Syntax.Advances
import Mathlib.Data.List.TakeWhile

/-! # Where names come from

The lexer reads identifiers as words, and the parser takes the name of a declaration from a word.
So the name of a candidate is an identifier, without the mark of a raw one.

* `TokenTree.wordsOfList` — the words of token trees, those inside groups included;
* `Lexer.isWord_of_trees?` — all words of a text are identifiers;
* `Item.declaredNames` — the names of the type declarations in an item;
* `isIdentifier_of_collect` — what both come to for candidates.
-/

namespace FieldDelta

/-! ## Characters of a list -/

section Decisions

variable {p : Char → Prop} [DecidablePred p]

/-- What is said of the characters of a list is decided on the list.  There are libraries that go
    through all characters instead. -/
instance (priority := high) decidableForallMem (cs : List Char) : Decidable (∀ c ∈ cs, p c) :=
  List.decidableBAll p cs

instance (priority := high) decidableExistsMem (cs : List Char) : Decidable (∃ c ∈ cs, p c) :=
  List.decidableBEx p cs

end Decisions

namespace Unicode

/-! ## Identifier characters -/

/-- Whether every range of the first table lies within one of the second.  Both tables rise. -/
def covers (ranges : List CodeRange) : List CodeRange → Bool
  | [] => ranges.isEmpty
  | wide :: rest =>
    covers (ranges.dropWhile fun range => wide.1 ≤ range.1 && range.2 ≤ wide.2) rest

theorem inRanges_of_covers {ranges wider : List CodeRange} {c : Char}
    (h_covers : covers ranges wider = true) (h_c : inRanges ranges c = true) :
    inRanges wider c = true := by
  induction wider generalizing ranges with
  | nil =>
    rw [covers, List.isEmpty_iff] at h_covers
    rw [h_covers] at h_c
    cases h_c
  | cons wide rest ih =>
    rw [covers] at h_covers
    rw [inRanges, ← List.takeWhile_append_dropWhile (p := fun range : CodeRange =>
      wide.1 ≤ range.1 && range.2 ≤ wide.2) (l := ranges), List.any_append, Bool.or_eq_true] at h_c
    rw [inRanges, List.any_cons, Bool.or_eq_true]
    cases h_c with
    | inl h_taken =>
      obtain ⟨range, h_range, h_c⟩ := List.any_eq_true.mp h_taken
      have h_within := List.mem_takeWhile_imp h_range
      simp at h_c h_within
      left
      simp
      omega
    | inr h_left => exact .inr (ih h_covers h_left)

theorem isIdentifierContinue_of_start {c : Char} (h_start : isIdentifierStart c = true) :
    isIdentifierContinue c = true := by
  have h_covers : covers xidStart xidContinue = true := by decide +kernel
  unfold isIdentifierStart at h_start
  unfold isIdentifierContinue
  split at h_start
  next h_ascii =>
    rw [if_pos h_ascii, Bool.or_eq_true]
    rw [Bool.or_eq_true] at h_start
    exact h_start.imp_right fun h_alpha => by simp [Char.isAlphanum, h_alpha]
  next h_ascii =>
    rw [if_neg h_ascii]
    exact inRanges_of_covers h_covers h_start

end Unicode

namespace Syntax

open Unicode (isIdentifierStart isIdentifierContinue)

/-! ## Words -/

/-- An identifier without raw mark. -/
def IsIdentifier (cs : List Char) : Prop :=
  ∃ first rest, cs = first :: rest ∧ isIdentifierStart first = true ∧
    ∀ c ∈ rest, isIdentifierContinue c = true

/-- An identifier as it is written, raw or not. -/
def IsWord (text : String) : Prop :=
  IsIdentifier text.toList ∨ ∃ name, text.toList = 'r' :: '#' :: name ∧ IsIdentifier name

theorem IsIdentifier.not_mem {cs : List Char} {c : Char} (h_cs : IsIdentifier cs)
    (h_start : isIdentifierStart c = false) (h_continue : isIdentifierContinue c = false) :
    c ∉ cs := by
  obtain ⟨first, rest, rfl, h_first, h_rest⟩ := h_cs
  intro h_mem
  rcases List.mem_cons.mp h_mem with rfl | h_mem
  · rw [h_first] at h_start
    cases h_start
  · rw [h_rest c h_mem] at h_continue
    cases h_continue

theorem IsWord.withoutRaw {text : String} (h_word : IsWord text) :
    IsIdentifier (Naming.withoutRaw text).toList := by
  unfold Naming.withoutRaw
  rcases h_word with h_plain | ⟨name, h_text, h_name⟩
  · split
    next name h_raw =>
      -- A plain identifier has no raw mark, as `#` does not continue one.
      have h_text : text.toList = 'r' :: '#' :: name := by
        unfold Naming.rawName? at h_raw
        split at h_raw
        next h_text => rw [h_text, Option.some.inj h_raw]
        next => cases h_raw
      refine absurd ?_ (h_plain.not_mem (c := '#') (by decide) (by decide))
      rw [h_text]
      exact .tail _ (.head _)
    next => exact h_plain
  · rw [h_text]
    simpa [Naming.rawName?] using h_name

namespace TokenTree

mutual

/-- The words of a token tree. -/
def words : TokenTree → List String
  | word text => [text]
  | group _ inner => wordsOfList inner
  | _ => []

/-- The words of a sequence of token trees. -/
def wordsOfList : List TokenTree → List String
  | [] => []
  | tree :: rest => tree.words ++ wordsOfList rest

end

@[simp] theorem wordsOfList_nil : wordsOfList [] = [] := by
  rw [wordsOfList]

@[simp] theorem wordsOfList_cons (tree : TokenTree) (rest : List TokenTree) :
    wordsOfList (tree :: rest) = tree.words ++ wordsOfList rest := by
  rw [wordsOfList]

@[simp] theorem wordsOfList_append (trees others : List TokenTree) :
    wordsOfList (trees ++ others) = wordsOfList trees ++ wordsOfList others := by
  induction trees with
  | nil => simp
  | cons tree rest ih => simp [ih]

theorem mem_wordsOfList {text : String} {trees : List TokenTree} :
    text ∈ wordsOfList trees ↔ ∃ tree ∈ trees, text ∈ tree.words := by
  induction trees with
  | nil => simp
  | cons tree rest ih => simp [ih]

theorem wordsOfList_subset {trees others : List TokenTree} (h_suffix : trees <:+ others) :
    wordsOfList trees ⊆ wordsOfList others := by
  obtain ⟨front, rfl⟩ := h_suffix
  rw [wordsOfList_append]
  exact List.subset_append_right ..

end TokenTree

open TokenTree (wordsOfList)

/-! ## The lexer -/

namespace Lexer

theorem taken_append (front rest : List Char) : taken (front ++ rest) rest = front := by
  simp [taken]

theorem eq_append_of_afterName? {cs rest : List Char} (h_after : afterName? cs = some rest) :
    ∃ name, IsIdentifier name ∧ cs = name ++ rest := by
  match cs with
  | [] => cases h_after
  | c :: behind =>
    rw [afterName?, Option.ite_none_right_eq_some] at h_after
    obtain ⟨h_start, h_rest⟩ := h_after
    cases h_rest
    refine ⟨c :: behind.takeWhile isIdentifierContinue, ⟨c, _, rfl, h_start, fun d h_d => ?_⟩, ?_⟩
    · exact List.mem_takeWhile_imp h_d
    · rw [List.cons_append, List.takeWhile_append_dropWhile]

theorem isWord_of_afterIdentifier? {cs rest : List Char}
    (h_after : afterIdentifier? cs = some rest) : IsWord (String.ofList (taken cs rest)) := by
  unfold afterIdentifier? at h_after
  split at h_after
  next =>
    obtain ⟨name, h_name, rfl⟩ := eq_append_of_afterName? h_after
    rw [taken_append]
    exact .inl (by rwa [String.toList_ofList])
  next behind h_raw =>
    rw [after?, Option.ite_none_right_eq_some] at h_raw
    obtain ⟨h_mark, h_behind⟩ := h_raw
    obtain ⟨behind', rfl⟩ := List.isPrefixOf_iff_prefix.mp h_mark
    have h_behind : behind' = behind := Option.some.inj h_behind
    subst h_behind
    split at h_after
    next => cases h_after
    next rest' h_rest =>
      rw [Option.ite_none_left_eq_some] at h_after
      obtain ⟨-, h_eq⟩ := h_after
      cases h_eq
      obtain ⟨name, h_name, rfl⟩ := eq_append_of_afterName? h_rest
      rw [← List.append_assoc, taken_append]
      exact .inr ⟨name, by rw [String.toList_ofList]; rfl, h_name⟩

theorem isWord_of_punct? {cs rest : List Char} {tree : TokenTree}
    (h_punct : punct? cs = some (tree, rest)) : tree.words = [] := by
  unfold punct? at h_punct
  split at h_punct
  next =>
    split at h_punct
    next => cases h_punct
    next =>
      rw [Option.ite_none_left_eq_some] at h_punct
      cases h_punct.2
      rfl
  next =>
    rw [Option.ite_none_right_eq_some] at h_punct
    cases h_punct.2
    rfl
  next => cases h_punct

theorem isWord_of_leaf? {cs rest : List Char} {tree : TokenTree}
    (h_leaf : leaf? cs = some (tree, rest)) : ∀ text ∈ tree.words, IsWord text := by
  unfold leaf? at h_leaf
  split at h_leaf
  next =>
    cases h_leaf
    simp [TokenTree.words]
  next =>
    split at h_leaf
    next h_punct =>
      cases h_leaf
      rw [isWord_of_punct? h_punct]
      nofun
    next =>
      obtain ⟨rest', h_word, h_eq⟩ := Option.map_eq_some_iff.mp h_leaf
      cases h_eq
      rw [afterWord?, Option.ite_none_left_eq_some] at h_word
      intro text h_text
      rw [List.mem_singleton.mp h_text]
      exact isWord_of_afterIdentifier? h_word.2

/-- The words of a lexeme. -/
def Lexeme.words : Lexeme → List String
  | .tree token => token.words
  | _ => []

theorem words_docAttribute (inner : Bool) (cs : List Char) :
    wordsOfList (docAttribute inner cs) = ["doc"] := by
  cases inner <;> rfl

theorem isWord_of_lexemes? {cs rest : List Char} {found : List Lexeme}
    (h_found : lexemes? cs = some (found, rest)) :
    ∀ lexeme ∈ found, ∀ text ∈ lexeme.words, IsWord text := by
  unfold lexemes? at h_found
  split at h_found
  next _ inner doc _ _ =>
    rw [Option.ite_none_right_eq_some] at h_found
    cases h_found.2
    intro lexeme h_lexeme text h_text
    obtain ⟨tree, h_tree, rfl⟩ := List.mem_map.mp h_lexeme
    have h_mem : text ∈ wordsOfList (docAttribute inner doc) :=
      TokenTree.mem_wordsOfList.mpr ⟨tree, h_tree, h_text⟩
    rw [words_docAttribute] at h_mem
    rw [List.mem_singleton.mp h_mem]
    exact .inl ⟨'d', ['o', 'c'], rfl, by decide, List.all_eq_true.mp (by decide)⟩
  next =>
    cases h_found
    simp [Lexeme.words, TokenTree.words]
  next =>
    split at h_found
    next => cases h_found
    next =>
      split at h_found
      next =>
        cases h_found
        simp [Lexeme.words]
      next =>
        cases h_found
        simp [Lexeme.words]
      next =>
        obtain ⟨⟨tree, rest'⟩, h_leaf, h_eq⟩ := Option.map_eq_some_iff.mp h_found
        cases h_eq
        intro lexeme h_lexeme
        rw [List.mem_singleton.mp h_lexeme]
        exact isWord_of_leaf? h_leaf

theorem isWord_of_scan? {steps : Nat} {cs : List Char} {found : List Lexeme}
    (h_found : scan? steps cs = some found) :
    ∀ lexeme ∈ found, ∀ text ∈ lexeme.words, IsWord text := by
  induction steps generalizing cs found with
  | zero => cases h_found
  | succ steps ih =>
    rw [scan?] at h_found
    split at h_found
    next =>
      cases h_found
      nofun
    next =>
      split at h_found
      next => cases h_found
      next first rest h_first =>
        obtain ⟨others, h_others, rfl⟩ := Option.map_eq_some_iff.mp h_found
        exact List.forall_mem_append.mpr ⟨isWord_of_lexemes? h_first, ih h_others⟩

/-- Forming groups adds no words. -/
theorem words_of_nest? {p : String → Prop} {current : List TokenTree}
    {outer : List (Delimiter × List TokenTree)} {lexemes : List Lexeme} {trees : List TokenTree}
    (h_nest : nest? current outer lexemes = some trees)
    (h_current : ∀ tree ∈ current, ∀ text ∈ tree.words, p text)
    (h_outer : ∀ opened ∈ outer, ∀ tree ∈ opened.2, ∀ text ∈ tree.words, p text)
    (h_lexemes : ∀ lexeme ∈ lexemes, ∀ text ∈ lexeme.words, p text) :
    ∀ tree ∈ trees, ∀ text ∈ tree.words, p text := by
  induction lexemes generalizing current outer with
  | nil =>
    rw [nest?, Option.ite_none_right_eq_some] at h_nest
    cases h_nest.2
    exact fun tree h_tree => h_current tree (List.mem_reverse.mp h_tree)
  | cons lexeme rest ih =>
    obtain ⟨h_lexeme, h_rest⟩ := List.forall_mem_cons.mp h_lexemes
    cases lexeme with
    | tree token =>
      rw [nest?] at h_nest
      exact ih h_nest (List.forall_mem_cons.mpr ⟨h_lexeme, h_current⟩) h_outer h_rest
    | opening delimiter =>
      rw [nest?] at h_nest
      exact ih h_nest nofun (List.forall_mem_cons.mpr ⟨h_current, h_outer⟩) h_rest
    | closing delimiter =>
      match outer with
      | [] => cases h_nest
      | (opened, before) :: outer =>
        rw [nest?, Option.ite_none_right_eq_some] at h_nest
        obtain ⟨h_before, h_outer⟩ := List.forall_mem_cons.mp h_outer
        refine ih h_nest.2 (List.forall_mem_cons.mpr ⟨fun text h_text => ?_, h_before⟩) h_outer h_rest
        rw [TokenTree.words, TokenTree.mem_wordsOfList] at h_text
        obtain ⟨tree, h_tree, h_text⟩ := h_text
        exact h_current tree (List.mem_reverse.mp h_tree) text h_text

theorem isWord_of_trees? {cs : List Char} {trees : List TokenTree}
    (h_trees : trees? cs = some trees) : ∀ text ∈ wordsOfList trees, IsWord text := by
  obtain ⟨lexemes, h_scan, h_nest⟩ := Option.bind_eq_some_iff.mp h_trees
  intro text h_text
  obtain ⟨tree, h_tree, h_text⟩ := TokenTree.mem_wordsOfList.mp h_text
  exact words_of_nest? h_nest nofun nofun (isWord_of_scan? h_scan) tree h_tree text h_text

end Lexer

/-! ## The parser -/

mutual

/-- The names of the type declarations in an item, those of inline modules included. -/
def Item.declaredNames : Item → List String
  | .struct decl _ => [decl.name]
  | .enum decl _ => [decl.name]
  | .union decl _ => [decl.name]
  | .submodule _ _ (some contents) => Item.declaredNamesOfList contents
  | _ => []

/-- The names of the type declarations in several items. -/
def Item.declaredNamesOfList : List Item → List String
  | [] => []
  | item :: rest => item.declaredNames ++ Item.declaredNamesOfList rest

end

theorem Item.declaredNamesOfList_eq_flatMap (items : List Item) :
    Item.declaredNamesOfList items = items.flatMap Item.declaredNames := by
  induction items with
  | nil => rw [Item.declaredNamesOfList, List.flatMap_nil]
  | cons item rest ih => rw [Item.declaredNamesOfList, ih, List.flatMap_cons]

open Reader

/-- The names in what the reader answers are words of the trees that it is given. -/
structure Reader.Names {α : Type} (names : α → List String) (reader : Reader α) : Prop where
  subset : ∀ {before : Cursor} {value : α} {behind : Cursor},
    reader before = some (value, behind) → names value ⊆ wordsOfList before.rest

namespace Reader.Names

variable {α β : Type} {names : α → List String}

theorem pure {value : α} (h_value : names value = []) : Names names (pure value) where
  subset h_read := by
    cases h_read
    rw [h_value]
    exact List.nil_subset _

theorem failure : Names names failure where
  subset := nofun

theorem bind {first : Reader β} {next : β → Reader α} [Advances first]
    (h_next : ∀ value, Names names (next value)) : Names names (first >>= next) where
  subset h_read := by
    obtain ⟨found, cursor, h_first, h_read⟩ := bind_eq_some.mp h_read
    exact List.Subset.trans ((h_next found).subset h_read)
      (TokenTree.wordsOfList_subset (rest_suffix first h_first))

/-- What a reader answers is handed on, whatever is read behind it. -/
theorem seq {γ : Type} {found : γ → List String} {first : Reader γ} {next : γ → Reader α}
    (h_first : Names found first)
    (h_next : ∀ value before value' behind, next value before = some (value', behind) →
      names value' = found value) : Names names (first >>= next) where
  subset h_read := by
    obtain ⟨value', cursor, h_value, h_read⟩ := bind_eq_some.mp h_read
    rw [h_next _ _ _ _ h_read]
    exact h_first.subset h_value

theorem ite {c : Prop} [Decidable c] {first second : Reader α} (h_first : Names names first)
    (h_second : Names names second) : Names names (if c then first else second) := by
  split
  · exact h_first
  · exact h_second

theorem upcoming {next : List TokenTree → Reader α}
    (h_next : ∀ trees read value behind, next trees { rest := trees, read := read } =
      some (value, behind) → names value ⊆ wordsOfList trees) :
    Names names (upcoming >>= next) where
  subset h_read := h_next _ _ _ _ h_read

theorem captured {reader : Reader α} (h_reader : Names names reader) :
    Names (fun found => names found.1) (captured reader) where
  subset {before value behind} h_read := by
    obtain ⟨value, phrase⟩ := value
    obtain ⟨cursor, h_inner, -, -⟩ := captured_eq_some.mp h_read
    have h_subset := h_reader.subset h_inner
    exact h_subset

theorem construct {reader : Reader α} (h_reader : Names names reader) :
    Names names (construct reader) := by
  refine seq h_reader.captured fun found before value behind h_read => ?_
  obtain ⟨_, _, -, h_read⟩ := bind_eq_some.mp h_read
  cases h_read
  rfl

theorem rawWhen {reader : Reader (α × Bool)}
    (h_reader : Names (fun found => names found.1) reader) : Names names (rawWhen reader) := by
  refine bind fun trees => seq h_reader.captured fun found before value behind h_read => ?_
  obtain ⟨_, _, -, h_read⟩ := bind_eq_some.mp h_read
  obtain ⟨_, _, -, h_read⟩ := bind_eq_some.mp h_read
  cases h_read
  rfl

theorem within {trees : List TokenTree} {reader : Reader α} (h_reader : Names names reader)
    {before behind : Cursor} {value : α} {phrase : Phrase}
    (h_read : within trees reader before = some ((value, phrase), behind)) :
    names value ⊆ wordsOfList trees := by
  unfold Reader.within at h_read
  generalize h_inside : reader.run { rest := trees } = found at h_read
  match found with
  | none => cases h_read
  | some (value', inside) =>
    dsimp only at h_read
    split at h_read
    · cases h_read
      exact h_reader.subset h_inside
    · cases h_read

theorem group {delimiter : Delimiter} {reader : Reader α} (h_reader : Names names reader) :
    Names names (group delimiter reader) := by
  refine upcoming fun trees read value behind h_read => ?_
  split at h_read
  next found inner rest =>
    split at h_read
    · obtain ⟨⟨value', phrase⟩, cursor, h_within, h_read⟩ := bind_eq_some.mp h_read
      obtain ⟨_, _, -, h_read⟩ := bind_eq_some.mp h_read
      cases h_read
      rw [TokenTree.wordsOfList_cons, TokenTree.words]
      exact List.Subset.trans (h_reader.within h_within) (List.subset_append_left _ _)
    · cases h_read
  next => cases h_read

end Reader.Names

namespace Grammar

variable {rules : Rules}

theorem names_wordWith (p : String → Bool) : Names (fun name => [name]) (wordWith p) := by
  refine .upcoming fun trees read value behind h_read => ?_
  split at h_read
  next text rest =>
    split at h_read
    · cases h_read
      rw [TokenTree.wordsOfList_cons]
      exact List.subset_append_left _ _
    · cases h_read
  next => cases h_read

theorem names_typeDeclaration (attributes : List Attribute) (visibility : Visibility) :
    Names Item.declaredNames (typeDeclaration rules attributes visibility) := by
  refine .bind fun trees => ?_
  split
  next => exact .failure
  next kind _ =>
    refine .bind fun _ => .seq (names_wordWith _) fun name before item behind h_read => ?_
    obtain ⟨parameters, _, -, h_read⟩ := bind_eq_some.mp h_read
    cases kind with
    | struct =>
      obtain ⟨_, _, -, h_read⟩ := bind_eq_some.mp h_read
      cases h_read
      rfl
    | enum =>
      obtain ⟨_, _, -, h_read⟩ := bind_eq_some.mp h_read
      obtain ⟨_, _, -, h_read⟩ := bind_eq_some.mp h_read
      cases h_read
      rfl
    | union =>
      obtain ⟨_, _, -, h_read⟩ := bind_eq_some.mp h_read
      obtain ⟨_, _, -, h_read⟩ := bind_eq_some.mp h_read
      obtain ⟨_, _, -, h_read⟩ := bind_eq_some.mp h_read
      cases h_read
      rfl

variable [rules.Advance]

/-- The names in the items of a file or a module are words if those in each of them are. -/
theorem names_itemsWithin {names : Item → List String} (h_item : Names names rules.item)
    (limit : Nat) : Names (·.flatMap names) (itemsWithin rules limit) := by
  induction limit with
  | zero => exact .failure
  | succ limit ih =>
    refine .bind fun ended => .ite (.pure rfl) ?_
    refine ⟨fun h_read => ?_⟩
    obtain ⟨first, cursor, h_first, h_read⟩ := bind_eq_some.mp h_read
    obtain ⟨others, cursor', h_others, h_read⟩ := bind_eq_some.mp h_read
    cases h_read
    rw [List.flatMap_cons]
    exact List.append_subset.mpr ⟨h_item.subset h_first, List.Subset.trans (ih.subset h_others)
      (TokenTree.wordsOfList_subset (rest_suffix rules.item h_first))⟩

theorem names_items {names : Item → List String} (h_item : Names names rules.item) :
    Names (·.flatMap names) (items rules) :=
  .bind fun _ => names_itemsWithin h_item _

theorem names_moduleItem (h_item : Names Item.declaredNames rules.item)
    (attributes : List Attribute) : Names Item.declaredNames (moduleItem rules attributes) := by
  refine .bind fun _ => .bind fun _ => .bind fun name => .bind fun ended => .ite (.pure rfl) ?_
  refine .group (.bind fun inner => .seq (names_items h_item) ?_)
  intro contents before item behind h_read
  cases h_read
  rw [Item.declaredNames, Item.declaredNamesOfList_eq_flatMap]

section Items

variable {names : Item → List String}

theorem names_other (h_other : names .other = []) (reader : Reader Unit) [Advances reader] :
    Names (fun found => names found.1) (other reader) :=
  .bind fun _ => .pure h_other

theorem names_perhapsRaw (h_other : names .other = []) (reader : Reader Bool)
    [Advances reader] : Names (fun found => names found.1) (perhapsRaw reader) :=
  .bind fun _ => .pure h_other

theorem names_paired {reader : Reader Item} (h_reader : Names names reader) :
    Names (fun found => names found.1) (do return (← reader, false)) := by
  refine .seq h_reader fun item before found behind h_read => ?_
  cases h_read
  rfl

/-- The names in an item are words if those in modules and in type declarations are. -/
theorem names_itemBody {attributes : List Attribute} (h_other : names .other = [])
    (h_use : ∀ leading tree, names (.use leading tree) = [])
    (h_module : Names names (moduleItem rules attributes))
    (h_declaration : ∀ seen, Names names (typeDeclaration rules attributes seen)) :
    Names (fun found => names found.1) (itemBody rules attributes) := by
  have h_reader (reader : Reader Unit) [Advances reader] := names_other h_other reader
  have h_raw (reader : Reader Bool) [Advances reader] := names_perhapsRaw h_other reader
  refine .bind fun seen => .bind fun trees => ?_
  dsimp only
  refine .ite (h_raw _) (.ite ?_ (.ite ?_ (.ite (h_raw _) (.ite (h_raw _) (.ite ?_
    (.ite (names_paired h_module) (.ite (names_paired (h_declaration _)) (.ite (h_reader _)
    (.ite (h_raw _) (.ite (h_raw _) (.ite (h_reader _) .failure)))))))))))
  · exact .bind fun _ => .ite (h_reader _) (.ite (h_reader _) .failure)
  · refine .bind fun _ => .bind fun leading => .bind fun trees => .bind fun found => .bind fun _ => .pure ?_
    rcases found with ⟨tree, _ | _⟩
    · exact h_use _ _
    · exact h_other
  · refine .bind fun next => ?_
    dsimp only
    exact .ite (h_reader _) (.ite (h_raw _) (.ite (.ite (h_reader _) .failure)
      (names_paired h_module)))

omit [rules.Advance] in
theorem names_item
    (h_body : ∀ attributes, Names (fun found => names found.1) (itemBody rules attributes)) :
    Names names (item rules) :=
  .rawWhen (.bind fun attributes => .construct (h_body attributes))

end Items

end Grammar

theorem Rules.names_item (depth : Nat) : Names Item.declaredNames (Rules.upTo depth).item := by
  induction depth with
  | zero => exact .failure
  | succ depth ih =>
    exact Grammar.names_item fun _ => Grammar.names_itemBody rfl (fun _ _ => rfl)
      (Grammar.names_moduleItem ih _) fun _ => Grammar.names_typeDeclaration _ _

/-- The names in what is read from a text are words of it. -/
theorem isWord_of_read? {α : Type} {names : α → List String} {reader : Rules → Reader α}
    {cs : List Char} {trees : List TokenTree} {value : α} (h_trees : Lexer.trees? cs = some trees)
    (h_names : Names names (reader (Rules.for trees))) (h_read : read? reader trees = some value) :
    ∀ name ∈ names value, IsWord name := by
  intro name h_name
  refine Lexer.isWord_of_trees? h_trees name ?_
  unfold read? at h_read
  split at h_read
  next found cursor h_found =>
    rw [Option.ite_none_right_eq_some] at h_read
    cases h_read.2
    exact h_names.subset h_found h_name
  next => cases h_read

theorem declaredNames_of_parseFile? {text : String} {items : List Item}
    (h_parse : parseFile? text = some items) :
    ∀ name ∈ Item.declaredNamesOfList items, IsWord name := by
  obtain ⟨trees, h_trees, h_read⟩ := Option.bind_eq_some_iff.mp h_parse
  have h_names : Names (·.flatMap Item.declaredNames) (Grammar.file (Rules.for trees)) :=
    .bind fun _ => Grammar.names_items (Rules.names_item _)
  rw [Item.declaredNamesOfList_eq_flatMap]
  exact isWord_of_read? h_trees h_names h_read

end Syntax

/-! ## Candidates -/

namespace Candidate

open Syntax

/-- The identity is that of a type whose name is among the given words. -/
def IsNamedIn (names : List String) (candidate : Candidate) : Prop :=
  ∃ modulePath, ∃ name ∈ names, candidate.identity = .declared modulePath (Naming.withoutRaw name)

theorem isNamedIn_ofDeclaration {modulePath : String} {scope : Scope} {kind : Kind}
    {decl : Declaration} {item : Item} {candidate : Candidate}
    (h_candidate : candidate ∈ ofDeclaration modulePath scope kind decl item) :
    candidate.IsNamedIn [decl.name] := by
  unfold ofDeclaration at h_candidate
  split at h_candidate
  · rw [List.mem_singleton.mp h_candidate]
    exact ⟨modulePath, decl.name, List.mem_singleton_self _, rfl⟩
  · cases h_candidate

mutual

theorem isNamedIn_ofItem {modulePath : String} {scope : Scope} (item : Item)
    {candidate : Candidate} (h_candidate : candidate ∈ ofItem modulePath scope item) :
    candidate.IsNamedIn item.declaredNames := by
  match item with
  | .struct decl fields => exact isNamedIn_ofDeclaration h_candidate
  | .enum decl variants => exact isNamedIn_ofDeclaration h_candidate
  | .union decl fields => exact isNamedIn_ofDeclaration h_candidate
  | .submodule attributes name (some contents) =>
    rw [ofItem] at h_candidate
    split at h_candidate
    · cases h_candidate
    · exact isNamedIn_ofItems contents h_candidate
  | .submodule attributes name none => cases h_candidate
  | .use leading tree => cases h_candidate
  | .other => cases h_candidate

theorem isNamedIn_ofItems {modulePath : String} {scope : Scope} (items : List Item)
    {candidate : Candidate} (h_candidate : candidate ∈ ofItems modulePath scope items) :
    candidate.IsNamedIn (Item.declaredNamesOfList items) := by
  match items with
  | [] => cases h_candidate
  | item :: rest =>
    rw [ofItems] at h_candidate
    rw [Item.declaredNamesOfList]
    rcases List.mem_append.mp h_candidate with h_first | h_rest
    · obtain ⟨modulePath, name, h_name, h_identity⟩ := isNamedIn_ofItem item h_first
      exact ⟨modulePath, name, List.mem_append_left _ h_name, h_identity⟩
    · obtain ⟨modulePath, name, h_name, h_identity⟩ := isNamedIn_ofItems rest h_rest
      exact ⟨modulePath, name, List.mem_append_right _ h_name, h_identity⟩

end

end Candidate

open Syntax

/-- The own name of a collected type is an identifier. -/
theorem isIdentifier_of_collect {modulePath label text : String} {candidate : Candidate}
    (h_candidate : candidate ∈ (collect modulePath label text).candidates) :
    IsIdentifier candidate.identity.name.toList := by
  unfold collect at h_candidate
  split at h_candidate
  next items h_parse =>
    obtain ⟨modulePath, name, h_name, h_identity⟩ := Candidate.isNamedIn_ofItems items h_candidate
    have h_identifier := (declaredNames_of_parseFile? h_parse name h_name).withoutRaw
    rwa [h_identity, TypeIdentity.name_declared
      (h_identifier.not_mem (by decide) (by decide))]
  next => cases h_candidate

end FieldDelta
