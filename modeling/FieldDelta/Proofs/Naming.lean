import FieldDelta.Description
import FieldDelta.Proofs.Syntax.Words

/-! # Members as identifiers

A member is made from the name of a field: its first character goes into lower case, a keyword is
escaped, and a name that every delta type takes for itself is changed.  What comes out can always
be written, and two members that differ still do so without the mark of a raw identifier.

* `Naming.IsUsable` — the identifiers that can be written, plain or raw;
* `Naming.IsAccess` — what fields are accessed by;
* `isUsable_accessor`, `unreserved_accessor` — what accessors are;
* `accessor_withoutRaw` — the accessor depends on the name of the property only.
-/

namespace FieldDelta

open Syntax (IsIdentifier IsWord)

namespace Naming

/-! ## The mark of a raw identifier -/

theorem rawName?_of_isKeyword {name : String} (h_keyword : isKeyword name = true) :
    rawName? name.toList = none := by
  have h_all : ∀ keyword ∈ keywords, rawName? keyword.toList = none := by decide
  exact h_all name (by simpa [isKeyword] using h_keyword)

theorem rawName?_raw (name : String) : rawName? ("r#" ++ name).toList = some name.toList := by
  simp [rawName?]

@[simp] theorem withoutRaw_raw (name : String) : withoutRaw ("r#" ++ name) = name := by
  rw [withoutRaw, rawName?_raw]
  exact String.ofList_toList

theorem withoutRaw_of_plain {name : String} (h_plain : rawName? name.toList = none) :
    withoutRaw name = name := by
  rw [withoutRaw, h_plain]

theorem rawName?_of_isIdentifier {cs : List Char} (h_cs : IsIdentifier cs) :
    rawName? cs = none := by
  unfold rawName?
  split
  next name =>
    -- The second character of an identifier is none that ends it.
    refine absurd ?_ (h_cs.not_mem (c := '#') (by decide) (by decide))
    exact .tail _ (.head _)
  next => rfl

/-- A word is an identifier, or one behind the mark of a raw identifier. -/
theorem word_cases {text : String} (h_word : IsWord text) :
    ∃ name : String, IsIdentifier name.toList ∧ (text = name ∨ text = "r#" ++ name) := by
  rcases h_word with h_plain | ⟨name, h_text, h_name⟩
  · exact ⟨text, h_plain, .inl rfl⟩
  · refine ⟨String.ofList name, by rwa [String.toList_ofList], .inr ?_⟩
    apply String.toList_injective
    simp [h_text]

/-! ## Identifiers that can be written -/

/-- A plain identifier that is no keyword, or a keyword that has a raw form in that form. -/
def IsUsable (identifier : String) : Prop :=
  (rawName? identifier.toList = none ∧ identifier ∉ keywords) ∨
    ∃ keyword ∈ keywords, keyword ∉ pathKeywords ∧ identifier = "r#" ++ keyword

theorem isUsable_usableIdentifier {name : String} (h_plain : rawName? name.toList = none) :
    IsUsable (usableIdentifier name) := by
  unfold usableIdentifier
  split
  next h_path =>
    have h_all : ∀ keyword ∈ pathKeywords, rawName? (keyword ++ "_").toList = none ∧
        keyword ++ "_" ∉ keywords := by
      decide
    exact .inl (h_all name (by simpa using h_path))
  next h_path =>
    split
    next h_keyword =>
      exact .inr ⟨name, by simpa [isKeyword] using h_keyword, by simpa using h_path, rfl⟩
    next h_keyword => exact .inl ⟨h_plain, by simpa [isKeyword] using h_keyword⟩

/-- Usable identifiers that differ still do so without the mark of a raw one. -/
theorem IsUsable.withoutRaw_inj {first second : String} (h_first : IsUsable first)
    (h_second : IsUsable second) (h_eq : withoutRaw first = withoutRaw second) :
    first = second := by
  rcases h_first with ⟨h_first, h_keyword⟩ | ⟨keyword, h_keyword, -, rfl⟩ <;>
    rcases h_second with ⟨h_second, h_keyword'⟩ | ⟨keyword', h_keyword', -, rfl⟩
  · rwa [withoutRaw_of_plain h_first, withoutRaw_of_plain h_second] at h_eq
  · rw [withoutRaw_of_plain h_first, withoutRaw_raw] at h_eq
    exact absurd (h_eq ▸ h_keyword') h_keyword
  · rw [withoutRaw_of_plain h_second, withoutRaw_raw] at h_eq
    exact absurd (h_eq ▸ h_keyword) h_keyword'
  · rw [withoutRaw_raw, withoutRaw_raw] at h_eq
    rw [h_eq]

/-! ## Lower case -/

theorem rawName?_lowerFirst {name : String} (h_name : IsIdentifier name.toList) :
    rawName? (lowerFirst name).toList = none := by
  obtain ⟨first, rest, h_list, -, h_rest⟩ := h_name
  have h_hash : '#' ∉ rest := by
    intro h_mem
    have h_continue := h_rest '#' h_mem
    revert h_continue
    decide
  rw [lowerFirst, h_list]
  dsimp only
  rw [String.toList_ofList]
  -- What the first character maps to is followed by the rest, or by a combining dot.
  have h_second : ∀ c, rawName? (c :: rest) = none := by
    intro c
    unfold rawName?
    split
    next h_eq =>
      cases h_eq
      exact absurd (.head _) h_hash
    next => rfl
  unfold Unicode.toLowercase
  split
  · exact h_second _
  split
  · rfl
  split
  · exact h_second _
  · exact h_second _

/-! ## Members of fields -/

/-- What a field is accessed by: a word, or the index of a field in a tuple. -/
def IsAccess (access : String) : Prop :=
  IsWord access ∨ ∃ index : Nat, access = toString index

theorem memberName_raw (name : String) :
    memberName ("r#" ++ name) = usableIdentifier (lowerFirst name) := by
  rw [memberName, rawName?_raw]
  dsimp only
  rw [String.ofList_toList]

theorem isDigit_of_isIdentifierStart {c : Char} (h_start : Unicode.isIdentifierStart c = true) :
    c.isDigit = false := by
  cases h_digit : c.isDigit with
  | false => rfl
  | true =>
    simp only [Char.isDigit, Bool.and_eq_true, decide_eq_true_eq, ge_iff_le, UInt32.le_iff_toNat_le]
      at h_digit
    have h_code : 48 ≤ c.toNat ∧ c.toNat ≤ 57 := h_digit
    have h_chars : ∀ n < 58, 48 ≤ n → Unicode.isIdentifierStart (Char.ofNat n) = false := by
      decide
    rw [← Char.ofNat_toNat c, h_chars c.toNat (by omega) h_code.1] at h_start
    cases h_start

theorem memberName_of_isIdentifier {name : String} (h_name : IsIdentifier name.toList) :
    memberName name = usableIdentifier (lowerFirst name) := by
  rw [memberName, rawName?_of_isIdentifier h_name]
  obtain ⟨first, rest, h_list, h_start, -⟩ := h_name
  simp [h_list, isDigit_of_isIdentifierStart h_start]

theorem exists_digit_toString (index : Nat) :
    ∃ digit rest, (toString index).toList = digit :: rest ∧ digit.isDigit = true ∧
      ∀ c ∈ rest, c.isDigit = true := by
  have h_digits : (toString index).toList = Nat.toDigits 10 index := Nat.toList_repr
  cases h_list : Nat.toDigits 10 index with
  | nil => exact absurd h_list Nat.toDigits_ne_nil
  | cons digit rest =>
    have h_digit : ∀ c ∈ digit :: rest, c.isDigit = true := by
      intro c h_c
      exact Nat.isDigit_of_mem_toDigits (by decide) (by decide) (h_list ▸ h_c)
    rw [List.forall_mem_cons] at h_digit
    exact ⟨digit, rest, by rw [h_digits, h_list], h_digit⟩

theorem rawName?_toString (index : Nat) : rawName? (toString index).toList = none := by
  obtain ⟨digit, rest, h_list, h_digit, -⟩ := exists_digit_toString index
  unfold rawName?
  split
  next h_raw =>
    rw [h_list] at h_raw
    cases h_raw
    exact absurd h_digit (by decide)
  next => rfl

theorem memberName_toString (index : Nat) : memberName (toString index) = "_" ++ toString index := by
  rw [memberName, rawName?_toString]
  obtain ⟨digit, rest, h_list, h_digit, -⟩ := exists_digit_toString index
  rw [h_list]
  exact if_pos h_digit

theorem isUsable_memberName {access : String} (h_access : IsAccess access) :
    IsUsable (memberName access) := by
  rcases h_access with h_word | ⟨index, rfl⟩
  · obtain ⟨name, h_name, rfl | rfl⟩ := word_cases h_word
    · rw [memberName_of_isIdentifier h_name]
      exact isUsable_usableIdentifier (rawName?_lowerFirst h_name)
    · rw [memberName_raw]
      exact isUsable_usableIdentifier (rawName?_lowerFirst h_name)
  · -- No keyword begins with an underscore.
    rw [memberName_toString]
    have h_all : ∀ keyword ∈ keywords, keyword.toList.head? ≠ some '_' := by decide
    have h_list : ("_" ++ toString index).toList = '_' :: (toString index).toList := by simp
    refine .inl ⟨by rw [h_list]; rfl, fun h_keyword => h_all _ h_keyword ?_⟩
    rw [h_list]
    rfl

/-- Raw and plain forms of a name have the same member. -/
theorem memberName_withoutRaw {access : String} (h_access : IsAccess access) :
    memberName (withoutRaw access) = memberName access := by
  rcases h_access with h_word | ⟨index, rfl⟩
  · obtain ⟨name, h_name, rfl | rfl⟩ := word_cases h_word
    · rw [withoutRaw_of_plain (rawName?_of_isIdentifier h_name)]
    · rw [withoutRaw_raw, memberName_raw, memberName_of_isIdentifier h_name]
  · rw [withoutRaw_of_plain (rawName?_toString index)]

end Naming

/-! ## Accessors -/

open Naming

/-- The accessor is the member, or the name of a generated member with an underscore behind. -/
theorem accessor_cases (access : String) :
    ((accessor access).1 = memberName access ∧
      withoutRaw (memberName access) ∉ reservedMembers) ∨
    ∃ reserved ∈ reservedMembers, (accessor access).1 = reserved ++ "_" := by
  unfold accessor unreservedMember
  dsimp only
  split
  next renamed h_renamed =>
    rw [Option.ite_none_right_eq_some] at h_renamed
    exact .inr ⟨_, by simpa using h_renamed.1, (Option.some.inj h_renamed.2).symm⟩
  next h_none =>
    refine .inl ⟨rfl, fun h_reserved => ?_⟩
    simp [h_reserved] at h_none

theorem isUsable_accessor {access : String} (h_access : IsAccess access) :
    IsUsable (accessor access).1 := by
  rcases accessor_cases access with ⟨h_member, -⟩ | ⟨reserved, h_reserved, h_renamed⟩
  · rw [h_member]
    exact isUsable_memberName h_access
  · have h_all : ∀ member ∈ reservedMembers, rawName? (member ++ "_").toList = none ∧
        member ++ "_" ∉ keywords := by
      decide
    rw [h_renamed]
    exact .inl (h_all reserved h_reserved)

theorem unreserved_accessor (access : String) :
    withoutRaw (accessor access).1 ∉ reservedMembers := by
  rcases accessor_cases access with ⟨h_member, h_free⟩ | ⟨reserved, h_reserved, h_renamed⟩
  · rwa [h_member]
  · have h_all : ∀ member ∈ reservedMembers, withoutRaw (member ++ "_") ∉ reservedMembers := by
      decide
    rw [h_renamed]
    exact h_all reserved h_reserved

theorem accessor_not_mem_reservedMembers (access : String) :
    (accessor access).1 ∉ reservedMembers := by
  have h_all : ∀ member ∈ reservedMembers, withoutRaw member ∈ reservedMembers := by decide
  exact fun h_reserved => unreserved_accessor access (h_all _ h_reserved)

/-- Properties with one name have one accessor. -/
theorem accessor_withoutRaw {access : String} (h_access : IsAccess access) :
    (accessor (withoutRaw access)).1 = (accessor access).1 := by
  unfold accessor
  rw [memberName_withoutRaw h_access]
  dsimp only
  split <;> rfl

end FieldDelta
