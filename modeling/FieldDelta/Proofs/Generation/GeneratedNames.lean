import FieldDelta.Proofs.Generation.FileNames
import FieldDelta.Proofs.Options
import FieldDelta.Proofs.Syntax.ModuleNames

/-! # Generated names as identifiers

The name of a delta type is that of its type with the suffix behind it.  Only the suffix is checked,
and on its own.  So two things can go wrong: the suffix holds a letter or number that continues no
identifier, which is never one of ASCII, or name and suffix together spell a keyword.  The suffix
that types have by default does neither.

* `isPlainIdentifier_append_iff` — a name with more behind it;
* `isPlainIdentifier_generatedName` — when the name of a delta type can be written as it stands.
-/

namespace FieldDelta

open Naming (IsPlainIdentifier keywords)
open Syntax (IsItemName)
open Unicode (isIdentifierContinue)

/-! ## A name with a suffix -/

/-- Behind its first character, a keyword has lower-case letters of ASCII only. -/
theorem isLower_of_append_mem_keywords {name : String} (h_nonempty : name ≠ "") (suffix : String)
    (h_keyword : name ++ suffix ∈ keywords) : ∀ c ∈ suffix.toList, c.isLower = true := by
  have h_all : ∀ keyword ∈ keywords, ∀ c ∈ keyword.toList.tail, c.isLower = true := by decide
  have h_tail := h_all _ h_keyword
  intro c h_c
  refine h_tail c ?_
  rw [String.toList_append, List.tail_append_of_ne_nil (by simpa using h_nonempty)]
  exact List.mem_append_right _ h_c

theorem Syntax.IsItemName.append_ne_underscore {name suffix : String} (h_name : IsItemName name) :
    name ++ suffix ≠ "_" := by
  obtain ⟨first, rest, h_list, -, -⟩ := h_name.isIdentifier
  intro h_eq
  have h_chars := congrArg String.toList h_eq
  rw [String.toList_append, h_list, List.cons_append] at h_chars
  obtain ⟨h_first, h_rest⟩ := List.cons.inj h_chars
  refine h_name.not_neverRaw ?_
  have h_underscore : name = "_" := by
    rw [← String.toList_inj, h_list, h_first, (List.append_eq_nil_iff.mp h_rest).1]
    rfl
  rw [h_underscore]
  decide

theorem isPlainIdentifier_append_iff {name : String} (h_name : IsItemName name) (suffix : String) :
    IsPlainIdentifier (name ++ suffix) ↔
      (∀ c ∈ suffix.toList, isIdentifierContinue c = true) ∧ name ++ suffix ∉ keywords := by
  rw [Naming.isPlainIdentifier_iff, String.toList_append,
    Syntax.isIdentifier_append h_name.isIdentifier, and_iff_right h_name.append_ne_underscore]

/-! ## Delta types -/

/-- The letters and numbers of ASCII that a suffix may hold continue an identifier. -/
theorem isIdentifierContinue_of_fragment {suffix : String}
    (h_fragment : Marker.isIdentifierFragment suffix = true) (h_ascii : IsAscii suffix) :
    ∀ c ∈ suffix.toList, isIdentifierContinue c = true := by
  intro c h_c
  rw [isIdentifierContinue_of_ascii (h_ascii c h_c)]
  exact List.all_eq_true.mp h_fragment c h_c

variable {modulePath label text : String} {candidate : Candidate} {d : Descriptor}

/-- The name of a delta type can be written as it stands exactly if its suffix continues an
    identifier and it is no keyword.  A suffix of ASCII continues one, and a keyword takes one of
    lower-case letters; so the suffix that types have by default keeps names usable. -/
theorem isPlainIdentifier_generatedName
    (h_candidate : candidate ∈ (collect modulePath label text).candidates)
    (h_described : (describe candidate).descriptor = some d) :
    d.generatedName = candidate.identity.name ++ d.config.suffix ∧
    (IsPlainIdentifier d.generatedName ↔
      (∀ c ∈ d.config.suffix.toList, isIdentifierContinue c = true) ∧
        d.generatedName ∉ keywords) ∧
    (IsAscii d.config.suffix → ∀ c ∈ d.config.suffix.toList, isIdentifierContinue c = true) ∧
    (d.generatedName ∈ keywords → ∀ c ∈ d.config.suffix.toList, c.isLower = true) ∧
    (d.config.suffix = "Delta" → IsPlainIdentifier d.generatedName) := by
  have h_name := isItemName_of_collect h_candidate
  have h_nonempty : candidate.identity.name ≠ "" := by
    intro h_empty
    have h_identifier := h_name.isIdentifier
    rw [h_empty] at h_identifier
    exact absurd h_identifier Syntax.not_isIdentifier_nil
  have h_generated := generatedName_of_describe h_described
  rw [h_generated]
  have h_plain := isPlainIdentifier_append_iff h_name d.config.suffix
  have h_lower := isLower_of_append_mem_keywords h_nonempty d.config.suffix
  have h_ascii := isIdentifierContinue_of_fragment (isIdentifierFragment_of_describe h_described)
  refine ⟨rfl, h_plain, h_ascii, h_lower, fun h_suffix => ?_⟩
  refine h_plain.mpr ⟨h_ascii (by rw [h_suffix]; decide), fun h_keyword => ?_⟩
  have h_first := h_lower h_keyword 'D' (by rw [h_suffix]; decide)
  exact absurd h_first (by decide)

/-- A type that is called by a keyword, with a suffix in lower case. -/
def rawSource : Source where
  modulePath := "crate"
  path := "lib.rs"
  text := "#[derive(TrackDelta)] #[delta(suffix = \"_delta\")] struct r#fn;"

theorem isPlainIdentifier_generatedName_rawSource :
    ∃ candidate ∈ rawSource.collected.candidates, ∃ d ∈ (describe candidate).descriptor,
      d.generatedName = "fn_delta" ∧ IsPlainIdentifier d.generatedName := by
  have h_found : ∃ candidate ∈ rawSource.collected.candidates,
      ∃ d ∈ (describe candidate).descriptor, d.generatedName = "fn_delta" ∧
        IsAscii d.config.suffix := by
    decide +kernel
  obtain ⟨candidate, h_candidate, d, h_described, h_generated, h_suffix⟩ := h_found
  obtain ⟨-, h_plain, h_ascii, -⟩ := isPlainIdentifier_generatedName h_candidate h_described
  refine ⟨candidate, h_candidate, d, h_described, h_generated, h_plain.mpr ⟨h_ascii h_suffix, ?_⟩⟩
  rw [h_generated]
  decide

/-- A type and a suffix that spell a keyword. -/
def keywordSource : Source where
  modulePath := "crate"
  path := "lib.rs"
  text := "#[derive(TrackDelta)] #[delta(suffix = \"n\")] struct f;"

/-- The suffix is accepted, and nothing is found. -/
theorem not_isPlainIdentifier_generatedName_keywordSource :
    ∃ candidate ∈ keywordSource.collected.candidates, ∃ d ∈ (describe candidate).descriptor,
      d.generatedName = "fn" ∧ (describe candidate).diagnostics = [] ∧
        ¬ IsPlainIdentifier d.generatedName := by
  decide +kernel

end FieldDelta
