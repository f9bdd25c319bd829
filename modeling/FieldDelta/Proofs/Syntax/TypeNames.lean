import FieldDelta.Proofs.Naming
import FieldDelta.Proofs.Syntax.Writing

/-! # Names of types

A declaration is not called by a keyword, and a keyword that a path may begin with has no raw form.
So no tracked type is called `crate`, `self`, `Self` or `super`, in any spelling.

* `Reader.Answers` — whatever the reader answers has a property;
* `Item.HasPlainNames` — the declarations of an item are not called by keywords;
* `Grammar.answers_item` — what a reader of items answers, from what it answers for each of them;
* `not_mem_neverRaw_of_collect` — what this comes to for candidates.
-/

namespace FieldDelta

namespace Syntax

open Reader

/-! ## What readers answer -/

/-- Whatever the reader answers has the property. -/
structure Reader.Answers {α : Type} (p : α → Prop) (reader : Reader α) : Prop where
  holds : ∀ {before : Cursor} {value : α} {behind : Cursor},
    reader before = some (value, behind) → p value

namespace Reader.Answers

variable {α β : Type} {p : α → Prop}

theorem pure {value : α} (h_value : p value) : Answers p (pure value) where
  holds h_read := by
    cases h_read
    exact h_value

theorem failure : Answers p failure where
  holds h_read := by
    cases h_read

theorem bind {first : Reader β} {next : β → Reader α} (h_next : ∀ value, Answers p (next value)) :
    Answers p (first >>= next) where
  holds h_read := by
    obtain ⟨found, cursor, -, h_read⟩ := bind_eq_some.mp h_read
    exact (h_next found).holds h_read

/-- What is read second may depend on what was answered first. -/
theorem seq {q : β → Prop} {first : Reader β} {next : β → Reader α} (h_first : Answers q first)
    (h_next : ∀ value, q value → Answers p (next value)) : Answers p (first >>= next) where
  holds h_read := by
    obtain ⟨found, cursor, h_found, h_read⟩ := bind_eq_some.mp h_read
    exact (h_next found (h_first.holds h_found)).holds h_read

theorem ite {c : Prop} [Decidable c] {first second : Reader α} (h_first : Answers p first)
    (h_second : Answers p second) : Answers p (if c then first else second) := by
  split
  · exact h_first
  · exact h_second

theorem captured {reader : Reader α} (h_reader : Answers p reader) :
    Answers (fun found => p found.1) (captured reader) where
  holds {before value behind} h_read := by
    obtain ⟨value, phrase⟩ := value
    obtain ⟨cursor, h_inner, -, -⟩ := captured_eq_some.mp h_read
    exact h_reader.holds h_inner

theorem construct {reader : Reader α} (h_reader : Answers p reader) :
    Answers p (construct reader) :=
  seq h_reader.captured fun _ h_found => bind fun _ => pure h_found

theorem rawWhen {reader : Reader (α × Bool)} (h_reader : Answers (fun found => p found.1) reader) :
    Answers p (rawWhen reader) :=
  bind fun _ => seq h_reader.captured fun _ h_found => bind fun _ => bind fun _ => pure h_found

theorem within {reader : Reader α} (h_reader : Answers p reader) (trees : List TokenTree) :
    Answers (fun found => p found.1) (within trees reader) where
  holds {before value behind} h_read := by
    unfold Reader.within at h_read
    generalize h_inside : reader.run { rest := trees } = found at h_read
    match found with
    | none => cases h_read
    | some (value', inside) =>
      dsimp only at h_read
      split at h_read
      · cases h_read
        exact h_reader.holds h_inside
      · cases h_read

theorem group {delimiter : Delimiter} {reader : Reader α} (h_reader : Answers p reader) :
    Answers p (group delimiter reader) := by
  refine bind fun trees => ?_
  split
  next found inner rest =>
    refine ite ?_ failure
    exact seq (h_reader.within inner) fun _ h_found => bind fun _ => pure h_found
  next => exact failure

end Reader.Answers

/-! ## Items -/

namespace Grammar

variable {rules : Rules} {p : Item → Prop}

theorem answers_itemsWithin (h_item : Answers p rules.item) (limit : Nat) :
    Answers (fun items => ∀ item ∈ items, p item) (itemsWithin rules limit) := by
  induction limit with
  | zero => exact .failure
  | succ limit ih =>
    refine .bind fun ended => .ite (.pure nofun) ?_
    exact .seq h_item fun first h_first => .seq ih fun others h_others =>
      .pure (List.forall_mem_cons.mpr ⟨h_first, h_others⟩)

theorem answers_items (h_item : Answers p rules.item) :
    Answers (fun items => ∀ item ∈ items, p item) (items rules) :=
  .bind fun _ => answers_itemsWithin h_item _

/-- An item has a property that modules and type declarations have, and all other items. -/
theorem answers_itemBody {attributes : List Attribute} (h_other : p .other)
    (h_use : ∀ leading tree, p (.use leading tree))
    (h_module : Answers p (moduleItem rules attributes))
    (h_declaration : ∀ seen, Answers p (typeDeclaration rules attributes seen)) :
    Answers (fun found => p found.1) (itemBody rules attributes) := by
  have h_reader (reader : Reader Unit) : Answers (fun found => p found.1) (other reader) :=
    .bind fun _ => .pure h_other
  have h_raw (reader : Reader Bool) : Answers (fun found => p found.1) (perhapsRaw reader) :=
    .bind fun _ => .pure h_other
  have h_paired {reader : Reader Item} (h_reader : Answers p reader) :
      Answers (fun found => p found.1) (do return (← reader, false)) :=
    .seq h_reader fun _ h_found => .pure h_found
  refine .bind fun seen => .bind fun trees => ?_
  dsimp only
  refine .ite (h_raw _) (.ite ?_ (.ite ?_ (.ite (h_raw _) (.ite (h_raw _) (.ite ?_
    (.ite (h_paired h_module) (.ite (h_paired (h_declaration _)) (.ite (h_reader _)
    (.ite (h_raw _) (.ite (h_raw _) (.ite (h_reader _) .failure)))))))))))
  · exact .bind fun _ => .ite (h_reader _) (.ite (h_reader _) .failure)
  · refine .bind fun _ => .bind fun leading => .bind fun trees => .bind fun found => .bind fun _ => .pure ?_
    rcases found with ⟨tree, _ | _⟩
    · exact h_use _ _
    · exact h_other
  · exact .bind fun next => .ite (h_reader _) (.ite (h_raw _)
      (.ite (.ite (h_reader _) .failure) (h_paired h_module)))

theorem answers_item
    (h_body : ∀ attributes, Answers (fun found => p found.1) (itemBody rules attributes)) :
    Answers p (item rules) :=
  .rawWhen (.bind fun attributes => .construct (h_body attributes))

end Grammar

/-! ## Declarations -/

/-- No declaration in the item is called by a keyword. -/
def Item.HasPlainNames (item : Item) : Prop :=
  ∀ name ∈ item.declaredNames, Ahead.isReserved name = false

def Item.HavePlainNames (items : List Item) : Prop :=
  ∀ name ∈ Item.declaredNamesOfList items, Ahead.isReserved name = false

theorem Item.havePlainNames_iff {items : List Item} :
    Item.HavePlainNames items ↔ ∀ item ∈ items, item.HasPlainNames := by
  simp only [Item.HavePlainNames, Item.HasPlainNames, Item.declaredNamesOfList_eq_flatMap,
    List.mem_flatMap]
  exact ⟨fun h_names item h_item name h_name => h_names name ⟨item, h_item, h_name⟩,
    fun h_items name ⟨item, h_item, h_name⟩ => h_items item h_item name h_name⟩

namespace Grammar

variable {rules : Rules}

theorem answers_wordWith (p : String → Bool) : Answers (fun name => p name = true) (wordWith p) := by
  refine .bind fun trees => ?_
  split
  next text rest =>
    split
    next h_text => exact .bind fun _ => .pure h_text
    next => exact .failure
  next => exact .failure

theorem hasPlainNames_typeDeclaration (attributes : List Attribute) (visibility : Visibility) :
    Answers Item.HasPlainNames (typeDeclaration rules attributes visibility) := by
  refine .bind fun trees => ?_
  split
  next => exact .failure
  next kind _ =>
    refine .bind fun _ => .seq (answers_wordWith _) fun name h_name => .bind fun parameters => ?_
    have h_plain : ∀ declared ∈ [name], Ahead.isReserved declared = false := by simpa using h_name
    cases kind with
    | struct => exact .bind fun _ => .pure h_plain
    | enum => exact .bind fun _ => .bind fun _ => .pure h_plain
    | union => exact .bind fun _ => .bind fun _ => .bind fun _ => .pure h_plain

theorem hasPlainNames_moduleItem (h_item : Answers Item.HasPlainNames rules.item)
    (attributes : List Attribute) : Answers Item.HasPlainNames (moduleItem rules attributes) := by
  refine .bind fun _ => .bind fun _ => .bind fun name => .bind fun ended => .ite (.pure nofun) ?_
  exact .group (.bind fun _ => .seq (answers_items h_item) fun _ h_contents =>
    .pure (Item.havePlainNames_iff.mpr h_contents))

end Grammar

theorem Rules.hasPlainNames_item (depth : Nat) :
    Answers Item.HasPlainNames (Rules.upTo depth).item := by
  induction depth with
  | zero => exact .failure
  | succ depth ih =>
    exact Grammar.answers_item fun _ => Grammar.answers_itemBody nofun (fun _ _ => nofun)
      (Grammar.hasPlainNames_moduleItem ih _) fun _ => Grammar.hasPlainNames_typeDeclaration _ _

theorem eq_some_of_read? {α : Type} {reader : Rules → Reader α} {trees : List TokenTree} {value : α}
    (h_read : read? reader trees = some value) :
    ∃ behind, reader (Rules.for trees) { rest := trees } = some (value, behind) := by
  unfold read? at h_read
  split at h_read
  next found cursor h_found =>
    rw [Option.ite_none_right_eq_some] at h_read
    cases h_read.2
    exact ⟨cursor, h_found⟩
  next => cases h_read

/-! ## Names that a path may not begin with -/

/-- Every word of trees that can be written is one that the lexer reads. -/
theorem isProperWord_of_mem_wordsOfList {text : String} : ∀ {trees : List TokenTree},
    TokenTree.Writable trees → text ∈ TokenTree.wordsOfList trees → Lexer.IsProperWord text
  | [], _, h_text => by simp at h_text
  | .word word :: rest, h_trees, h_text => by
    rw [TokenTree.wordsOfList_cons] at h_text
    rcases List.mem_append.mp h_text with h_text | h_text
    · obtain rfl : text = word := by simpa [TokenTree.words] using h_text
      exact h_trees.1
    · exact isProperWord_of_mem_wordsOfList h_trees.tail h_text
  | .group delimiter inner :: rest, h_trees, h_text => by
    rw [TokenTree.wordsOfList_cons, TokenTree.words] at h_text
    rcases List.mem_append.mp h_text with h_text | h_text
    · exact isProperWord_of_mem_wordsOfList h_trees.inside h_text
    · exact isProperWord_of_mem_wordsOfList h_trees.tail h_text
  | .punct char joint :: rest, h_trees, h_text =>
    isProperWord_of_mem_wordsOfList h_trees.tail (by simpa [TokenTree.words] using h_text)
  | .literal literal :: rest, h_trees, h_text =>
    isProperWord_of_mem_wordsOfList h_trees.tail (by simpa [TokenTree.words] using h_text)

/-- A word that no keyword without a raw form is does not spell one behind its mark. -/
theorem withoutRaw_not_mem_neverRaw {name : String} (h_word : Lexer.IsProperWord name)
    (h_plain : name ∉ Lexer.neverRaw) : Naming.withoutRaw name ∉ Lexer.neverRaw := by
  rcases h_word with h_identifier | ⟨raw, h_text, -, h_raw⟩
  · rwa [Naming.withoutRaw_of_plain (Naming.rawName?_of_isIdentifier h_identifier)]
  · have h_name : Naming.withoutRaw name = String.ofList raw := by
      simp [Naming.withoutRaw, Naming.rawName?, h_text]
    rw [h_name, ← List.contains_iff_mem, h_raw]
    exact Bool.false_ne_true

theorem not_mem_neverRaw {name : String} (h_plain : Ahead.isReserved name = false) :
    name ∉ Lexer.neverRaw := by
  have h_reserved : ∀ keyword ∈ Lexer.neverRaw, Ahead.isReserved keyword = true := by decide
  intro h_keyword
  rw [h_reserved name h_keyword] at h_plain
  cases h_plain

theorem declaredNames_not_mem_neverRaw {text : String} {items : List Item}
    (h_parse : parseFile? text = some items) :
    ∀ name ∈ Item.declaredNamesOfList items, Naming.withoutRaw name ∉ Lexer.neverRaw := by
  obtain ⟨trees, h_trees, h_read⟩ := Option.bind_eq_some_iff.mp h_parse
  obtain ⟨behind, h_read⟩ := eq_some_of_read? h_read
  have h_plain : Answers (fun items => ∀ item ∈ items, item.HasPlainNames)
      (Grammar.file (Rules.for trees)) :=
    .bind fun _ => Grammar.answers_items (Rules.hasPlainNames_item _)
  have h_words : Names (·.flatMap Item.declaredNames) (Grammar.file (Rules.for trees)) :=
    .bind fun _ => Grammar.names_items (Rules.names_item _)
  intro name h_name
  have h_reserved := Item.havePlainNames_iff.mpr (h_plain.holds h_read) name h_name
  rw [Item.declaredNamesOfList_eq_flatMap] at h_name
  exact withoutRaw_not_mem_neverRaw (isProperWord_of_mem_wordsOfList
    (Lexer.writable_of_trees? h_trees) (h_words.subset h_read h_name)) (not_mem_neverRaw h_reserved)

end Syntax

open Syntax

/-- The own name of a collected type is none that has no raw form. -/
theorem not_mem_neverRaw_of_collect {modulePath label text : String} {candidate : Candidate}
    (h_candidate : candidate ∈ (collect modulePath label text).candidates) :
    candidate.identity.name ∉ Lexer.neverRaw := by
  unfold collect at h_candidate
  split at h_candidate
  next items h_parse =>
    obtain ⟨modulePath, name, h_name, h_identity⟩ := Candidate.isNamedIn_ofItems items h_candidate
    have h_identifier := (declaredNames_of_parseFile? h_parse name h_name).withoutRaw
    rw [h_identity, TypeIdentity.name_declared (h_identifier.not_mem (by decide) (by decide))]
    exact declaredNames_not_mem_neverRaw h_parse name h_name
  next => cases h_candidate

/-- In particular, it is none that a path may begin with. -/
theorem not_mem_pathKeywords_of_collect {modulePath label text : String} {candidate : Candidate}
    (h_candidate : candidate ∈ (collect modulePath label text).candidates) :
    candidate.identity.name ∉ Naming.pathKeywords := by
  have h_all : ∀ keyword ∈ Naming.pathKeywords, keyword ∈ Lexer.neverRaw := by decide
  exact fun h_keyword => not_mem_neverRaw_of_collect h_candidate (h_all _ h_keyword)

end FieldDelta
