import FieldDelta.Proofs.Syntax.Words

/-! # Names of fields

The parser takes the names of fields from words as well.

* `Item.fieldNames` — the names of the fields of a struct;
* `fieldNames_of_parseItem?` — they are identifiers, raw or not, in an item that was parsed.
-/

namespace FieldDelta.Syntax

/-- The name of a field, unless it is in a tuple. -/
def Field.names (field : Field) : List String :=
  field.name.toList

/-- The names of the fields of a struct. -/
def Item.fieldNames : Item → List String
  | .struct _ fields => fields.toList.flatMap Field.names
  | _ => []

open TokenTree (wordsOfList)
open Reader

namespace Reader.Names

variable {α : Type} {names : α → List String}

/-- The names in the elements of a list are words if those in an element are. -/
theorem listWithin {separator : String} {stop : List TokenTree → Bool} {element : Reader α}
    [Advances element] (h_element : Names names element) (bound : Nat) :
    Names (fun found => found.1.flatMap names) (listWithin separator stop element bound) := by
  induction bound with
  | zero => exact .failure
  | succ bound ih =>
    refine .bind fun ended => .ite (.pure rfl) ⟨fun h_read => ?_⟩
    obtain ⟨first, cursor, h_first, h_read⟩ := bind_eq_some.mp h_read
    have h_names := h_element.subset h_first
    obtain ⟨stopped, _, h_stopped, h_read⟩ := bind_eq_some.mp h_read
    cases h_stopped
    split at h_read
    · cases h_read
      simpa using h_names
    · obtain ⟨_, behind, h_separator, h_read⟩ := bind_eq_some.mp h_read
      obtain ⟨others, cursor', h_others, h_read⟩ := bind_eq_some.mp h_read
      cases h_read
      -- The other elements are read behind the first one.
      have h_suffix := (rest_suffix _ h_separator).trans (rest_suffix element h_first)
      simpa using ⟨h_names, List.Subset.trans (ih.subset h_others)
        (TokenTree.wordsOfList_subset h_suffix)⟩

theorem commaList {element : Reader α} [Advances element] (h_element : Names names element) :
    Names (fun found => found.1.flatMap names) (commaList element) :=
  .bind fun _ => listWithin h_element _

end Reader.Names

namespace Grammar

variable {rules : Rules} [rules.Advance]

omit [rules.Advance] in
theorem names_namedField (nested : Reader Unit) [Advances nested] :
    Names Field.names (namedField rules nested) := by
  refine .bind fun attributes => .bind fun visibility =>
    .seq (names_wordWith _) fun name before field behind h_read => ?_
  obtain ⟨_, _, -, h_read⟩ := bind_eq_some.mp h_read
  obtain ⟨_, _, -, h_read⟩ := bind_eq_some.mp h_read
  obtain ⟨_, _, -, h_read⟩ := bind_eq_some.mp h_read
  cases h_read
  rfl

theorem names_tupleField : Names Field.names (tupleField rules) :=
  .bind fun _ => .bind fun _ => .bind fun _ => .bind fun _ => .pure rfl

theorem names_fieldGroup {delimiter : Delimiter} {element : Reader Field} [Advances element]
    (h_element : Names Field.names element) :
    Names (·.flatMap Field.names) (do return (← group delimiter (commaList element)).1) := by
  refine .seq (.group (.commaList h_element)) fun found before fields behind h_read => ?_
  cases h_read
  rfl

theorem names_namedFields : Names (·.flatMap Field.names) (namedFields rules) := by
  refine .bind fun trees => ?_
  cases TokenTree.sizeOfList (trees.take 1) + 1 with
  | zero => exact .failure
  | succ depth => exact names_fieldGroup (names_namedField _)

theorem names_tupleFields : Names (·.flatMap Field.names) (tupleFields rules) :=
  names_fieldGroup names_tupleField

theorem names_structBody :
    Names (fun found => found.2.toList.flatMap Field.names) (structBody rules) := by
  refine .bind fun conditioned => .bind fun before => .bind fun ahead => .ite ?_ (.bind fun braces =>
    .ite ?_ (.bind fun _ => .pure rfl))
  · refine .seq names_tupleFields fun fields before found behind h_read => ?_
    obtain ⟨_, _, -, h_read⟩ := bind_eq_some.mp h_read
    obtain ⟨_, _, -, h_read⟩ := bind_eq_some.mp h_read
    cases h_read
    rfl
  · refine .seq names_namedFields fun fields before found behind h_read => ?_
    cases h_read
    rfl

theorem fieldNames_typeDeclaration (attributes : List Attribute) (visibility : Visibility) :
    Names Item.fieldNames (typeDeclaration rules attributes visibility) := by
  refine .bind fun trees => ?_
  split
  next => exact .failure
  next kind _ =>
    refine .bind fun _ => .bind fun name => .bind fun parameters => ?_
    cases kind with
    | struct =>
      refine .seq names_structBody fun found before item behind h_read => ?_
      cases h_read
      rfl
    | enum => exact .bind fun _ => .bind fun _ => .pure rfl
    | union => exact .bind fun _ => .bind fun _ => .bind fun _ => .pure rfl

theorem fieldNames_moduleItem (attributes : List Attribute) :
    Names Item.fieldNames (moduleItem rules attributes) :=
  .bind fun _ => .bind fun _ => .bind fun _ => .bind fun _ => .ite (.pure rfl)
    (.group (.bind fun _ => .bind fun _ => .pure rfl))

theorem fieldNames_item : Names Item.fieldNames (item rules) :=
  names_item fun _ => names_itemBody rfl (fun _ _ => rfl) (fieldNames_moduleItem _)
    fun _ => fieldNames_typeDeclaration _ _

end Grammar

theorem fieldNames_of_parseItem? {text : String} {item : Item}
    (h_parse : parseItem? text = some item) : ∀ name ∈ item.fieldNames, IsWord name := by
  obtain ⟨trees, h_trees, h_read⟩ := Option.bind_eq_some_iff.mp h_parse
  exact isWord_of_read? h_trees Grammar.fieldNames_item h_read

end FieldDelta.Syntax
