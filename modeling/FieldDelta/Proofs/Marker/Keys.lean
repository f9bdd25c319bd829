import FieldDelta.Proofs.Marker.Splitting
import FieldDelta.Proofs.Syntax.ModuleNames

/-! # The keys of arguments

An issue may name the key that it is about.  The arguments of an attribute are tokens that the
parser hands on as they are, and a key is one of the words among them; so a key is an identifier,
raw or not, like all words of a text.

* `Attribute.words` — the words in the arguments of an attribute;
* `argumentWords_of_parseItem?` — they are words of the text that an item was parsed from;
* `Marker.key_mem_words_of_readArguments` — a key is one of them.
-/

namespace FieldDelta

namespace Syntax

open TokenTree (wordsOfList)
open Reader

def AttributeInput.words : AttributeInput → List String
  | .arguments _ tokens => wordsOfList tokens
  | _ => []

/-- The words among the arguments of an attribute. -/
def Attribute.words (attr : Attribute) : List String :=
  attr.input.words

/-- The words among the arguments of the attributes of a struct. -/
def Item.argumentWords : Item → List String
  | .struct decl _ => decl.attributes.flatMap Attribute.words
  | _ => []

/-- The arguments hold no words but the given ones. -/
def Item.TakesFrom (words : List String) (item : Item) : Prop :=
  item.argumentWords ⊆ words

/-! ## The parser -/

/-- What is answered holds no words but those of what was read first. -/
theorem Reader.Names.handed {α β : Type} {names : α → List String} {found : β → List String}
    {first : Reader β} {next : β → Reader α} (h_first : Names found first)
    (h_next : ∀ value, Answers (fun answer => names answer ⊆ found value) (next value)) :
    Names names (first >>= next) where
  subset h_read := by
    obtain ⟨value, cursor, h_value, h_read⟩ := bind_eq_some.mp h_read
    exact List.Subset.trans ((h_next value).holds h_read) (h_first.subset h_value)

namespace Grammar

variable {rules : Rules}

theorem words_attributeInput : Names AttributeInput.words (attributeInput rules) := by
  refine .upcoming fun trees read value behind h_read => ?_
  split at h_read
  next delimiter inner rest =>
    obtain ⟨_, _, h_group, h_read⟩ := bind_eq_some.mp h_read
    cases h_group
    cases h_read
    rw [TokenTree.wordsOfList_cons, TokenTree.words]
    exact List.subset_append_left _ _
  next =>
    have h_value (phrase : Phrase) :
        (AttributeInput.value phrase).words ⊆ wordsOfList trees := List.nil_subset _
    split at h_read
    · refine Answers.holds (?_ : Answers (fun input => input.words ⊆ wordsOfList trees) _) h_read
      exact .bind fun _ => .bind fun _ => .ite
        (.bind fun _ => .bind fun _ => .bind fun _ => .pure (h_value _))
        (.bind fun _ => .bind fun _ => .pure (h_value _))
    · cases h_read
      exact List.nil_subset _

theorem words_attributeBody (inner : Bool) : Names Attribute.words (attributeBody rules inner) :=
  .bind fun _ => .handed words_attributeInput fun _ => .pure (List.Subset.refl _)

theorem words_outerAttribute : Names Attribute.words (outerAttribute rules) :=
  .bind fun _ => .group (words_attributeBody false)

theorem words_attributesWhile {more : List TokenTree → Bool} {element : Reader Attribute}
    [Advances element] (h_element : Names Attribute.words element) (limit : Nat) :
    Names (·.flatMap Attribute.words) (attributesWhile more element limit) := by
  induction limit with
  | zero => exact .failure
  | succ limit ih =>
    refine .bind fun continued => .ite ⟨fun h_read => ?_⟩ (.pure rfl)
    obtain ⟨first, cursor, h_first, h_read⟩ := bind_eq_some.mp h_read
    obtain ⟨others, cursor', h_others, h_read⟩ := bind_eq_some.mp h_read
    cases h_read
    rw [List.flatMap_cons]
    exact List.append_subset.mpr ⟨h_element.subset h_first, List.Subset.trans (ih.subset h_others)
      (TokenTree.wordsOfList_subset (rest_suffix element h_first))⟩

theorem takesFrom_itemBody (attributes : List Attribute) :
    Answers (fun found => found.1.TakesFrom (attributes.flatMap Attribute.words))
      (itemBody rules attributes) := by
  have h_none (item : Item) (h_item : item.argumentWords = []) :
      item.TakesFrom (attributes.flatMap Attribute.words) := by
    rw [Item.TakesFrom, h_item]
    exact List.nil_subset _
  refine answers_itemBody (h_none _ rfl) (fun _ _ => h_none _ rfl) ?_ fun _ => ?_
  · exact .bind fun _ => .bind fun _ => .bind fun _ => .bind fun _ => .ite (.pure (h_none _ rfl))
      (.group (.bind fun _ => .bind fun _ => .pure (h_none _ rfl)))
  · refine answers_typeDeclaration (fun decl fields h_attributes => ?_) (fun _ _ _ => h_none _ rfl)
      fun _ _ _ => h_none _ rfl
    rw [Item.TakesFrom, Item.argumentWords, h_attributes]
    exact List.Subset.refl _

theorem argumentWords_item : Names Item.argumentWords (item rules) := by
  exact .rawWhen (.handed (.bind fun _ => words_attributesWhile words_outerAttribute _)
    fun attributes => .construct (takesFrom_itemBody attributes))

end Grammar

/-- The arguments of a struct that was parsed hold no words but those of its text. -/
theorem argumentWords_of_parseItem? {text : String} {item : Item}
    (h_parse : parseItem? text = some item) : ∀ word ∈ item.argumentWords, IsWord word := by
  obtain ⟨trees, h_trees, h_read⟩ := Option.bind_eq_some_iff.mp h_parse
  exact isWord_of_read? h_trees Grammar.argumentWords_item h_read

end Syntax

/-! ## Reading arguments -/

namespace Marker

open Syntax
open TokenTree (wordsOfList)

theorem name_mem_words {key : WrittenKey} {name : String} (h_name : key.name = some name) :
    name ∈ wordsOfList key.tokens := by
  unfold WrittenKey.name at h_name
  split at h_name
  · cases h_name
  · rw [← Option.some.inj h_name, WrittenKey.tokens, TokenTree.wordsOfList_append,
      TokenTree.wordsOfList_cons, TokenTree.words]
    simp

/-- The keys of the arguments that are read are words among the tokens. -/
theorem key_mem_words {limit : Nat} {tokens : List TokenTree} {argument : Argument} {name : String}
    (h_argument : argument ∈ (readArgumentsWithin (fun _ => true) limit tokens).1)
    (h_name : argument.key = some name) : name ∈ wordsOfList tokens := by
  induction limit generalizing tokens with
  | zero => cases h_argument
  | succ limit ih =>
    rw [readArgumentsWithin] at h_argument
    split at h_argument
    · cases h_argument
    cases h_key : readKey tokens with
    | error fault => simp [h_key] at h_argument
    | ok answer =>
      obtain ⟨key, behind⟩ := answer
      obtain ⟨written, rfl, rfl⟩ := exists_key h_key
      cases h_value : readValue behind with
      | error fault => simp [h_key, h_value] at h_argument
      | ok answer =>
        obtain ⟨value, rest⟩ := answer
        obtain ⟨_, -, rfl, -⟩ := exists_value written h_value
        simp only [h_key, h_value, if_true] at h_argument
        rw [TokenTree.wordsOfList_append, TokenTree.wordsOfList_append, List.mem_append,
          List.mem_append]
        have h_first : argument = { key := written.name, value := value } →
            name ∈ wordsOfList written.tokens := by
          rintro rfl
          exact name_mem_words h_name
        split at h_argument
        · exact .inl (h_first (List.mem_singleton.mp h_argument))
        split at h_argument
        · rcases List.mem_cons.mp h_argument with h_argument | h_argument
          · exact .inl (h_first h_argument)
          · have h_rest := TokenTree.wordsOfList_subset (List.drop_suffix 1 rest) (ih h_argument)
            exact .inr (.inr h_rest)
        · exact .inl (h_first (List.mem_singleton.mp h_argument))

/-- The keys of the arguments of an attribute are words among them. -/
theorem key_mem_words_of_readArguments {input : AttributeInput} {argument : Argument}
    {name : String}
    (h_argument : argument ∈ (readArguments (fun _ => true) input).1)
    (h_name : argument.key = some name) : name ∈ input.words := by
  cases input with
  | none => cases h_argument
  | value phrase => cases h_argument
  | arguments delimiter tokens => exact key_mem_words h_argument h_name

end Marker
end FieldDelta
