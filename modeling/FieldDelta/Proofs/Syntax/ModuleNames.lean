import FieldDelta.Proofs.Resolution.Siblings

/-! # Names of modules

The parser takes the names of inline modules from words that are no keywords, `try` apart.  So the
module of a collected type is that of its file, with names of items behind it.

* `Item.moduleNames` — the names of the inline modules in an item;
* `IsItemName` — the names that an item can be given, without the mark of a raw one;
* `modulePath_of_collect` — the modules of candidates.
-/

namespace FieldDelta

namespace Syntax

open TokenTree (wordsOfList)
open Reader

mutual

/-- The names of the inline modules in an item, at any depth. -/
def Item.moduleNames : Item → List String
  | .submodule _ name (some contents) => name :: Item.moduleNamesOfList contents
  | _ => []

/-- The names of the inline modules in several items. -/
def Item.moduleNamesOfList : List Item → List String
  | [] => []
  | item :: rest => item.moduleNames ++ Item.moduleNamesOfList rest

end

theorem Item.moduleNamesOfList_eq_flatMap (items : List Item) :
    Item.moduleNamesOfList items = items.flatMap Item.moduleNames := by
  induction items with
  | nil => rw [Item.moduleNamesOfList, List.flatMap_nil]
  | cons item rest ih => rw [Item.moduleNamesOfList, ih, List.flatMap_cons]

/-! ## The parser -/

/-- A name is read in front of the other names in what is answered. -/
theorem Reader.Names.headed {α : Type} {names : α → List String} (others : α → List String)
    {first : Reader String} {next : String → Reader α} [Advances first]
    (h_first : Names (fun name => [name]) first) (h_next : ∀ name, Names others (next name))
    (h_names : ∀ name, Answers (fun value => names value ⊆ name :: others value) (next name)) :
    Names names (first >>= next) where
  subset h_read := by
    obtain ⟨name, cursor, h_name, h_read⟩ := bind_eq_some.mp h_read
    refine List.Subset.trans ((h_names name).holds h_read)
      (List.cons_subset.mpr ⟨h_first.subset h_name (.head _), ?_⟩)
    exact List.Subset.trans ((h_next name).subset h_read)
      (TokenTree.wordsOfList_subset (rest_suffix first h_name))

namespace Grammar

variable {rules : Rules}

/-- A property of items that type declarations of every kind have. -/
theorem answers_typeDeclaration {p : Item → Prop} {attributes : List Attribute}
    {visibility : Visibility}
    (h_struct : ∀ decl fields, decl.attributes = attributes → p (.struct decl fields))
    (h_enum : ∀ decl variants, decl.attributes = attributes → p (.enum decl variants))
    (h_union : ∀ decl fields, decl.attributes = attributes → p (.union decl fields)) :
    Answers p (typeDeclaration rules attributes visibility) := by
  refine .bind fun trees => ?_
  split
  next => exact .failure
  next kind _ =>
    refine .bind fun _ => .bind fun name => .bind fun parameters => ?_
    cases kind with
    | struct => exact .bind fun _ => .pure (h_struct _ _ rfl)
    | enum => exact .bind fun _ => .bind fun _ => .pure (h_enum _ _ rfl)
    | union => exact .bind fun _ => .bind fun _ => .bind fun _ => .pure (h_union _ _ rfl)

theorem unreserved_moduleItem
    (h_item : Answers (fun item => ∀ name ∈ item.moduleNames, name ∉ Lexer.neverRaw) rules.item)
    (attributes : List Attribute) :
    Answers (fun item => ∀ name ∈ item.moduleNames, name ∉ Lexer.neverRaw)
      (moduleItem rules attributes) := by
  refine .bind fun _ => .bind fun _ => .seq (answers_wordWith _) fun name h_name =>
    .bind fun ended => .ite (.pure nofun) ?_
  refine .group (.bind fun _ => .seq (answers_items h_item) fun contents h_contents => .pure ?_)
  rw [Item.moduleNames, Item.moduleNamesOfList_eq_flatMap, List.forall_mem_cons]
  constructor
  · rcases Bool.or_eq_true_iff.mp h_name with h_try | h_plain
    · rw [beq_iff_eq.mp h_try]
      decide
    · exact not_mem_neverRaw (by simpa using h_plain)
  · intro name h_name
    obtain ⟨item, h_item, h_name⟩ := List.mem_flatMap.mp h_name
    exact h_contents item h_item name h_name

variable [rules.Advance]

theorem moduleNames_moduleItem (h_item : Names Item.moduleNames rules.item)
    (attributes : List Attribute) : Names Item.moduleNames (moduleItem rules attributes) := by
  refine .bind fun _ => .bind fun _ => .headed (fun item : Item => item.moduleNames.drop 1)
    (names_wordWith _) (fun name => ?_) fun name => ?_
  · refine .bind fun ended => .ite (.pure rfl) (.group (.bind fun _ => ?_))
    refine .seq (names_items h_item) ?_
    intro contents before item behind h_read
    cases h_read
    rw [Item.moduleNames, Item.moduleNamesOfList_eq_flatMap, List.drop_one, List.tail_cons]
  · exact .bind fun ended => .ite (.pure (List.nil_subset _))
      (.group (.bind fun _ => .bind fun _ => .pure (by simp [Item.moduleNames])))

omit [rules.Advance] in
theorem moduleNames_typeDeclaration (attributes : List Attribute) (visibility : Visibility) :
    Names Item.moduleNames (typeDeclaration rules attributes visibility) where
  subset h_read := by
    have h_none : Answers (fun item => item.moduleNames = [])
        (typeDeclaration rules attributes visibility) :=
      answers_typeDeclaration (fun _ _ _ => rfl) (fun _ _ _ => rfl) fun _ _ _ => rfl
    rw [h_none.holds h_read]
    exact List.nil_subset _

end Grammar

theorem Rules.moduleNames_item (depth : Nat) : Names Item.moduleNames (Rules.upTo depth).item := by
  induction depth with
  | zero => exact .failure
  | succ depth ih =>
    exact Grammar.names_item fun _ => Grammar.names_itemBody rfl (fun _ _ => rfl)
      (Grammar.moduleNames_moduleItem ih _) fun _ => Grammar.moduleNames_typeDeclaration _ _

theorem Rules.unreserved_item (depth : Nat) :
    Answers (fun item => ∀ name ∈ item.moduleNames, name ∉ Lexer.neverRaw)
      (Rules.upTo depth).item := by
  induction depth with
  | zero => exact .failure
  | succ depth ih =>
    exact Grammar.answers_item fun _ => Grammar.answers_itemBody nofun (fun _ _ => nofun)
      (Grammar.unreserved_moduleItem ih _) fun _ => Grammar.answers_typeDeclaration
        (fun _ _ _ => nofun) (fun _ _ _ => nofun) fun _ _ _ => nofun

/-! ## Names of items -/

/-- A name that an item can be given, without the mark of a raw identifier. -/
structure IsItemName (name : String) : Prop where
  isIdentifier : IsIdentifier name.toList
  not_neverRaw : name ∉ Lexer.neverRaw

theorem isWord_of_isProperWord {text : String} (h_word : Lexer.IsProperWord text) : IsWord text :=
  h_word.imp_right fun ⟨name, h_text, h_name, _⟩ => ⟨name, h_text, h_name⟩

theorem isItemName_of_isProperWord {text : String} (h_word : Lexer.IsProperWord text)
    (h_plain : text ∉ Lexer.neverRaw) : IsItemName (Naming.withoutRaw text) :=
  ⟨(isWord_of_isProperWord h_word).withoutRaw, withoutRaw_not_mem_neverRaw h_word h_plain⟩

/-- What is put behind an item's name with a separator between can be told from it. -/
theorem IsItemName.colon_not_mem {name : String} (h_name : IsItemName name) :
    ':' ∉ name.toList :=
  h_name.isIdentifier.not_mem (by decide) (by decide)

theorem moduleNames_of_parseFile? {text : String} {items : List Item}
    (h_parse : parseFile? text = some items) :
    ∀ name ∈ Item.moduleNamesOfList items, IsItemName (Naming.withoutRaw name) := by
  obtain ⟨trees, h_trees, h_read⟩ := Option.bind_eq_some_iff.mp h_parse
  obtain ⟨behind, h_read⟩ := eq_some_of_read? h_read
  have h_plain : Answers (fun items => ∀ item ∈ items, ∀ name ∈ item.moduleNames,
      name ∉ Lexer.neverRaw) (Grammar.file (Rules.for trees)) :=
    .bind fun _ => Grammar.answers_items (Rules.unreserved_item _)
  have h_words : Names (·.flatMap Item.moduleNames) (Grammar.file (Rules.for trees)) :=
    .bind fun _ => Grammar.names_items (Rules.moduleNames_item _)
  intro name h_name
  rw [Item.moduleNamesOfList_eq_flatMap] at h_name
  obtain ⟨item, h_item, h_mem⟩ := List.mem_flatMap.mp h_name
  exact isItemName_of_isProperWord (isProperWord_of_mem_wordsOfList
    (Lexer.writable_of_trees? h_trees) (h_words.subset h_read h_name))
    (h_plain.holds h_read item h_item name h_mem)

end Syntax

/-! ## Candidates -/

open Syntax
open Text (joinSegments)

theorem Text.joinSegments_cons_cons (first second : String) (rest : List String) :
    joinSegments ((first ++ "::" ++ second) :: rest) = joinSegments (first :: second :: rest) := by
  cases rest with
  | nil => simp [joinSegments]
  | cons next rest => simp [joinSegments, String.intercalate_cons_of_ne_nil, String.append_assoc]

namespace Candidate

/-- The identity is that of a type with one of the declared names, below the module under the names
    of inline modules. -/
def IsBelow (modulePath : String) (modules declared : List String) (candidate : Candidate) : Prop :=
  ∃ names ⊆ modules.map Naming.withoutRaw, ∃ name ∈ declared,
    candidate.identity = .declared (joinSegments (modulePath :: names)) (Naming.withoutRaw name)

theorem IsBelow.subset {modulePath : String} {modules more declared others : List String}
    {candidate : Candidate} (h_below : candidate.IsBelow modulePath modules declared)
    (h_modules : modules ⊆ more) (h_declared : declared ⊆ others) :
    candidate.IsBelow modulePath more others := by
  obtain ⟨names, h_names, name, h_name, h_identity⟩ := h_below
  exact ⟨names, List.Subset.trans h_names (List.map_subset _ h_modules), name, h_declared h_name,
    h_identity⟩

theorem isBelow_ofDeclaration {modulePath : String} {scope : Scope} {kind : Kind}
    {decl : Declaration} {item : Item} {candidate : Candidate}
    (h_candidate : candidate ∈ ofDeclaration modulePath scope kind decl item) :
    candidate.IsBelow modulePath [] [decl.name] := by
  unfold ofDeclaration at h_candidate
  split at h_candidate
  · rw [List.mem_singleton.mp h_candidate]
    exact ⟨[], List.nil_subset _, decl.name, List.mem_singleton_self _, rfl⟩
  · cases h_candidate

mutual

theorem isBelow_ofItem {modulePath : String} {scope : Scope} (item : Item)
    {candidate : Candidate} (h_candidate : candidate ∈ ofItem modulePath scope item) :
    candidate.IsBelow modulePath item.moduleNames item.declaredNames := by
  match item with
  | .struct decl fields => exact isBelow_ofDeclaration h_candidate
  | .enum decl variants => exact isBelow_ofDeclaration h_candidate
  | .union decl fields => exact isBelow_ofDeclaration h_candidate
  | .submodule attributes name (some contents) =>
    rw [ofItem] at h_candidate
    split at h_candidate
    · cases h_candidate
    · obtain ⟨names, h_names, own, h_own, h_identity⟩ := isBelow_ofItems contents h_candidate
      rw [Text.joinSegments_cons_cons] at h_identity
      refine ⟨Naming.withoutRaw name :: names, ?_, own, h_own, h_identity⟩
      rw [Item.moduleNames, List.map_cons]
      exact List.cons_subset_cons _ h_names
  | .submodule attributes name none => cases h_candidate
  | .use leading tree => cases h_candidate
  | .other => cases h_candidate

theorem isBelow_ofItems {modulePath : String} {scope : Scope} (items : List Item)
    {candidate : Candidate} (h_candidate : candidate ∈ ofItems modulePath scope items) :
    candidate.IsBelow modulePath (Item.moduleNamesOfList items)
      (Item.declaredNamesOfList items) := by
  match items with
  | [] => cases h_candidate
  | item :: rest =>
    rw [ofItems] at h_candidate
    rw [Item.moduleNamesOfList, Item.declaredNamesOfList]
    rcases List.mem_append.mp h_candidate with h_first | h_rest
    · exact (isBelow_ofItem item h_first).subset (List.subset_append_left _ _)
        (List.subset_append_left _ _)
    · exact (isBelow_ofItems rest h_rest).subset (List.subset_append_right _ _)
        (List.subset_append_right _ _)

end

end Candidate

variable {modulePath label text : String} {candidate : Candidate}

theorem isItemName_of_collect
    (h_candidate : candidate ∈ (collect modulePath label text).candidates) :
    IsItemName candidate.identity.name :=
  ⟨isIdentifier_of_collect h_candidate, not_mem_neverRaw_of_collect h_candidate⟩

/-- The module of a collected type is that of its file with the inline modules around it. -/
theorem modulePath_of_collect
    (h_candidate : candidate ∈ (collect modulePath label text).candidates) :
    ∃ modules, candidate.identity.modulePath = joinSegments (modulePath :: modules) ∧
      ∀ name ∈ modules, IsItemName name := by
  unfold collect at h_candidate
  split at h_candidate
  next items h_parse =>
    obtain ⟨names, h_names, name, h_name, h_identity⟩ := Candidate.isBelow_ofItems items h_candidate
    have h_colon : ':' ∉ (Naming.withoutRaw name).toList :=
      (declaredNames_of_parseFile? h_parse name h_name).withoutRaw.not_mem (by decide) (by decide)
    refine ⟨names, ?_, fun inner h_inner => ?_⟩
    · rw [h_identity, TypeIdentity.modulePath_declared h_colon]
    · obtain ⟨word, h_word, rfl⟩ := List.mem_map.mp (h_names h_inner)
      exact moduleNames_of_parseFile? h_parse word h_word
  next => cases h_candidate

end FieldDelta
