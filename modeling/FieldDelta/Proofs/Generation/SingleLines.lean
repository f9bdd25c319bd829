import FieldDelta.Proofs.Description.Members
import FieldDelta.Proofs.Generation.Accounting
import FieldDelta.Proofs.Marker.Keys

/-! # Diagnostics on one line

A build script prints each diagnostic as one line, and messages hold texts of the source as they
are.  Names, keys and paths of types cannot go over several lines, whatever the source is.  Two
texts can: the value of a suffix that is rejected, and a type above the crate root, whose path may
hold literals.  `Compilation.spansLines_toLine_iff` says that there is no third.

* `SpansLines` — a text that goes over several lines;
* `Problem.QuotesBreak` — the problems whose wording holds such a text;
* `spansLines_diagnostic_iff` — what the diagnostic for a problem comes to.
-/

namespace FieldDelta

open Syntax (IsIdentifier IsWord)
open Text (joinSegments)

/-! ## Line breaks -/

/-- A character that ends a line. -/
def IsLineBreak (c : Char) : Prop :=
  c = '\n' ∨ c = '\r'

instance (c : Char) : Decidable (IsLineBreak c) :=
  inferInstanceAs (Decidable (_ ∨ _))

/-- The text holds a line break. -/
def SpansLines (text : String) : Prop :=
  ∃ c ∈ text.toList, IsLineBreak c

instance (text : String) : Decidable (SpansLines text) :=
  inferInstanceAs (Decidable (∃ _ ∈ _, _))

@[simp] theorem spansLines_append (text other : String) :
    SpansLines (text ++ other) ↔ SpansLines text ∨ SpansLines other := by
  simp only [SpansLines, String.toList_append, List.mem_append, or_and_right, exists_or]

theorem spansLines_join (texts : List String) :
    SpansLines (String.join texts) ↔ ∃ text ∈ texts, SpansLines text := by
  simp only [SpansLines, String.toList_join, List.mem_flatMap]
  exact ⟨fun ⟨c, ⟨text, h_text, h_c⟩, h_break⟩ => ⟨text, h_text, c, h_c, h_break⟩,
    fun ⟨text, h_text, c, h_c, h_break⟩ => ⟨c, ⟨text, h_text, h_c⟩, h_break⟩⟩

theorem spansLines_intercalate {separator : String} (h_separator : ¬ SpansLines separator)
    (texts : List String) :
    SpansLines (separator.intercalate texts) ↔ ∃ text ∈ texts, SpansLines text := by
  induction texts with
  | nil => simp [SpansLines]
  | cons text rest ih =>
    cases rest with
    | nil => simp
    | cons next rest =>
      rw [String.intercalate_cons_of_ne_nil (List.cons_ne_nil _ _), spansLines_append,
        spansLines_append, ih, or_iff_left h_separator]
      simp

theorem spansLines_joinSegments (names : List String) :
    SpansLines (joinSegments names) ↔ ∃ name ∈ names, SpansLines name :=
  spansLines_intercalate (by decide) names

theorem spansLines_toLine (found : Diagnostic) :
    SpansLines found.toLine ↔ SpansLines found.message ∨
      (∃ subject, found.subject = some subject ∧ SpansLines subject) ∨
      ∃ note ∈ found.notes, SpansLines note := by
  obtain ⟨code, severity, message, subject, notes⟩ := found
  have h_severity : ¬ SpansLines severity.text := by cases severity <;> decide
  have h_code : ¬ SpansLines code.text := by cases code <;> decide
  have h_notes : SpansLines (String.join (notes.map ("; " ++ ·))) ↔
      ∃ note ∈ notes, SpansLines note := by
    simp [spansLines_join, show ¬ SpansLines "; " by decide]
  have h_marks : ∀ mark ∈ [" [", "]: ", " (", ")", ""], ¬ SpansLines mark := by decide
  simp only [List.forall_mem_cons] at h_marks
  cases subject <;>
    simp [Diagnostic.toLine, Diagnostic.headline, h_notes, h_severity, h_code, h_marks, or_assoc]

/-! ## Names -/

theorem isForeign_of_isLineBreak {c : Char} (h_c : IsLineBreak c) : IsForeign c := by
  rcases h_c with rfl | rfl <;> decide +kernel

theorem not_spansLines_of_isIdentifier {name : String} (h_name : IsIdentifier name.toList) :
    ¬ SpansLines name := by
  rintro ⟨c, h_c, h_break⟩
  obtain ⟨h_start, h_continue, -⟩ := isForeign_of_isLineBreak h_break
  exact h_name.not_mem h_start h_continue h_c

theorem not_spansLines_of_isWord {text : String} (h_word : IsWord text) : ¬ SpansLines text := by
  obtain ⟨name, h_name, rfl | rfl⟩ := Naming.word_cases h_word
  · exact not_spansLines_of_isIdentifier h_name
  · simp [show ¬ SpansLines "r#" by decide, not_spansLines_of_isIdentifier h_name]

theorem not_spansLines_toString (index : Nat) : ¬ SpansLines (toString index) := by
  rintro ⟨c, h_c, h_break⟩
  obtain ⟨digit, rest, h_list, h_digits⟩ := Naming.exists_digit_toString index
  have h_digit : ∀ c ∈ digit :: rest, c.isDigit = true := List.forall_mem_cons.mpr h_digits
  rw [← h_list] at h_digit
  rcases h_break with rfl | rfl <;> exact absurd (h_digit _ h_c) (by decide)

theorem toNat_of_isLineBreak {c : Char} (h_c : IsLineBreak c) : c.toNat = 10 ∨ c.toNat = 13 :=
  h_c.imp (congrArg Char.toNat) (congrArg Char.toNat)

theorem not_isLineBreak_ofNat {n : Nat} (h_n : 0x20 ≤ n) : ¬ IsLineBreak (Char.ofNat n) := by
  by_cases h_valid : n.isValidChar
  · have h_char : Char.ofNat n = Char.ofNatAux n h_valid := dif_pos h_valid
    have h_code : (Char.ofNat n).toNat = n := congrArg Char.toNat h_char
    intro h_break
    have h_break := toNat_of_isLineBreak h_break
    omega
  · -- Codes without a character give the null character.
    have h_char : Char.ofNat n = Char.ofNat 0 := dif_neg h_valid
    rw [h_char]
    decide

/-- No line break is the lower case of anything else. -/
theorem isLineBreak_of_mem_toLowercase {c lower : Char} (h_lower : lower ∈ Unicode.toLowercase c)
    (h_break : IsLineBreak lower) : IsLineBreak c := by
  unfold Unicode.toLowercase at h_lower
  split at h_lower
  next h_ascii =>
    have h_all : ∀ n < 0x80, IsLineBreak (Char.ofNat n).toLower → IsLineBreak (Char.ofNat n) := by
      decide
    have h_c := h_all c.toNat h_ascii
    rw [Char.ofNat_toNat] at h_c
    exact h_c (List.mem_singleton.mp h_lower ▸ h_break)
  split at h_lower
  · exact absurd h_break ((by decide : ∀ c ∈ ['i', '\u0307'], ¬ IsLineBreak c) lower h_lower)
  split at h_lower
  next n h_run =>
    obtain ⟨run, h_run, h_map⟩ := List.exists_of_findSome?_eq_some h_run
    have h_targets : ∀ run ∈ Unicode.lowercaseRuns, 0x20 ≤ run.target := by decide +kernel
    have h_target := h_targets run h_run
    rw [Unicode.LowercaseRun.map?, Option.ite_none_right_eq_some] at h_map
    have h_code := Option.some.inj h_map.2
    rw [List.mem_singleton.mp h_lower] at h_break
    exact absurd h_break (not_isLineBreak_ofNat (by omega))
  next => rwa [List.mem_singleton.mp h_lower] at h_break

/-! ## Names and accessors of properties -/

section Access

variable {access : String} (h_access : Naming.IsAccess access)
include h_access

theorem not_spansLines_pathSegment : ¬ SpansLines (Naming.pathSegment access) := by
  unfold Naming.pathSegment
  rcases h_access with h_word | ⟨index, rfl⟩
  · exact not_spansLines_of_isIdentifier h_word.withoutRaw
  · rw [Naming.withoutRaw_of_plain (Naming.rawName?_toString index)]
    exact not_spansLines_toString index

omit h_access in
theorem not_spansLines_lowerFirst {name : String} (h_name : IsIdentifier name.toList) :
    ¬ SpansLines (Naming.lowerFirst name) := by
  rintro ⟨c, h_c, h_break⟩
  refine not_spansLines_of_isIdentifier h_name ?_
  unfold Naming.lowerFirst at h_c
  split at h_c
  next => cases h_c
  next first rest h_list =>
    rw [String.toList_ofList] at h_c
    rcases List.mem_append.mp h_c with h_c | h_c
    · exact ⟨first, h_list ▸ .head _, isLineBreak_of_mem_toLowercase h_c h_break⟩
    · exact ⟨c, h_list ▸ .tail _ h_c, h_break⟩

omit h_access in
theorem not_spansLines_usableIdentifier {name : String} (h_name : ¬ SpansLines name) :
    ¬ SpansLines (Naming.usableIdentifier name) := by
  have h_marks : ¬ SpansLines "_" ∧ ¬ SpansLines "r#" := by decide
  unfold Naming.usableIdentifier
  split
  · simp [h_name, h_marks]
  split
  · simp [h_name, h_marks]
  · exact h_name

theorem not_spansLines_memberName : ¬ SpansLines (Naming.memberName access) := by
  rcases h_access with h_word | ⟨index, rfl⟩
  · obtain ⟨name, h_name, rfl | rfl⟩ := Naming.word_cases h_word
    · rw [Naming.memberName_of_isIdentifier h_name]
      exact not_spansLines_usableIdentifier (not_spansLines_lowerFirst h_name)
    · rw [Naming.memberName_raw]
      exact not_spansLines_usableIdentifier (not_spansLines_lowerFirst h_name)
  · rw [Naming.memberName_toString, spansLines_append]
    exact not_or.mpr ⟨by decide, not_spansLines_toString index⟩

theorem not_spansLines_accessor : ¬ SpansLines (accessor access).1 := by
  rcases accessor_cases access with ⟨h_member, -⟩ | ⟨reserved, h_reserved, h_renamed⟩
  · rw [h_member]
    exact not_spansLines_memberName h_access
  · have h_all : ∀ member ∈ Naming.reservedMembers, ¬ SpansLines (member ++ "_") := by decide
    rw [h_renamed]
    exact h_all reserved h_reserved

end Access

/-! ## Problems -/

namespace Marker.Issue

/-- No key that the issue names goes over several lines. -/
def NamesFit : Issue → Prop
  | unknownKey key => ¬ SpansLines key
  | flagValue key => ¬ SpansLines key
  | _ => True

theorem not_spansLines_message {issue : Issue} (h_fit : issue.NamesFit)
    (h_suffix : ∀ value, issue = .invalidSuffix value → ¬ SpansLines value) :
    ¬ SpansLines issue.message := by
  unfold message
  cases issue with
  | unknownKey key =>
    have h_key : ¬ SpansLines key := h_fit
    simp +decide only [spansLines_append, h_key]
  | flagValue key =>
    have h_key : ¬ SpansLines key := h_fit
    simp +decide only [spansLines_append, h_key]
  | invalidSuffix value => simp +decide only [spansLines_append, h_suffix value rfl]
  | malformed fault =>
    have h_fault : ¬ SpansLines fault.message := by cases fault <;> decide
    simp +decide only [spansLines_append, h_fault]
  | _ => simp +decide only

end Marker.Issue

namespace Problem

/-- The problem quotes a text of the source that goes over several lines. -/
def QuotesBreak : Problem → Prop
  | argument (.invalidSuffix value) => SpansLines value
  | aboveRoot _ path => SpansLines path
  | _ => False

/-- No name that the problem holds goes over several lines. -/
def NamesFit : Problem → Prop
  | argument issue => issue.NamesFit
  | accessorRenamed name accessor => ¬ SpansLines name ∧ ¬ SpansLines accessor
  | memberClash first second member =>
    ¬ SpansLines first ∧ ¬ SpansLines second ∧ ¬ SpansLines member
  | aboveRoot name _ => ¬ SpansLines name
  | _ => True

theorem spansLines_of_quotesBreak {problem : Problem} (h_quotes : problem.QuotesBreak)
    (typeName : String) : SpansLines (problem.message typeName) := by
  unfold message
  cases problem with
  | argument issue =>
    cases issue with
    | invalidSuffix value =>
      unfold Marker.Issue.message
      simp only [spansLines_append]
      exact .inl (.inr h_quotes)
    | _ => cases h_quotes
  | aboveRoot name path =>
    simp only [spansLines_append]
    exact .inl (.inr h_quotes)
  | _ => cases h_quotes

theorem not_spansLines_message {problem : Problem} (h_fit : problem.NamesFit) {typeName : String}
    (h_type : ¬ SpansLines typeName) (h_quotes : ¬ problem.QuotesBreak) :
    ¬ SpansLines (problem.message typeName) := by
  unfold message
  cases problem with
  | notAStruct kind =>
    have h_kind : ¬ SpansLines (article kind) ∧ ¬ SpansLines kind.text := by cases kind <;> decide
    simp +decide only [spansLines_append, h_type, h_kind]
  | unreadable => simp +decide only
  | parameterised => simp +decide only [spansLines_append, h_type]
  | argument issue =>
    refine Marker.Issue.not_spansLines_message h_fit fun value h_issue h_value => ?_
    subst h_issue
    exact h_quotes h_value
  | accessorRenamed name accessor =>
    obtain ⟨h_name, h_accessor⟩ : ¬ SpansLines name ∧ ¬ SpansLines accessor := h_fit
    simp +decide only [spansLines_append, h_name, h_accessor]
  | memberClash first second member =>
    obtain ⟨h_first, h_second, h_member⟩ :
      ¬ SpansLines first ∧ ¬ SpansLines second ∧ ¬ SpansLines member := h_fit
    simp +decide only [spansLines_append, h_first, h_second, h_member]
  | aboveRoot name path =>
    have h_name : ¬ SpansLines name := h_fit
    have h_path : ¬ SpansLines path := h_quotes
    simp +decide only [spansLines_append, h_name, h_path]

end Problem

/-! ## Where problems come from -/

namespace Marker

theorem namesFit_applyArgument {config : TrackingConfig} {argument : Argument} {issue : Issue}
    (h_key : ¬ SpansLines (argument.key.getD ""))
    (h_issue : (applyArgument config argument).2 = some issue) : issue.NamesFit := by
  have h_flags : ¬ SpansLines "deep_tracking" ∧ ¬ SpansLines "convenience_functions" := by decide
  unfold applyArgument at h_issue
  split at h_issue
  · unfold applySuffix at h_issue
    split at h_issue
    · split at h_issue
      · cases h_issue
        trivial
      · split at h_issue <;> cases h_issue
        trivial
    · cases h_issue
      trivial
  · split at h_issue <;> cases h_issue
    exact h_flags.1
  · split at h_issue <;> cases h_issue
    exact h_flags.2
  · cases h_issue
    exact h_key

theorem namesFit_applyArguments {config : TrackingConfig} {arguments : List Argument}
    (h_keys : ∀ argument ∈ arguments, ¬ SpansLines (argument.key.getD "")) :
    ∀ issue ∈ (applyArguments config arguments).2, issue.NamesFit := by
  induction arguments generalizing config with
  | nil => exact List.forall_mem_nil _
  | cons argument rest ih =>
    obtain ⟨h_key, h_keys⟩ := List.forall_mem_cons.mp h_keys
    rw [applyArguments, List.forall_mem_append]
    exact ⟨fun issue h_issue => namesFit_applyArgument h_key (Option.mem_toList.mp h_issue),
      ih h_keys⟩

theorem namesFit_applyAttributes {config : TrackingConfig} {attributes : List Syntax.Attribute}
    (h_words : ∀ word ∈ attributes.flatMap Syntax.Attribute.words, IsWord word) :
    ∀ issue ∈ (applyAttributes config attributes).2, issue.NamesFit := by
  induction attributes generalizing config with
  | nil => exact List.forall_mem_nil _
  | cons attr rest ih =>
    rw [List.flatMap_cons] at h_words
    obtain ⟨h_own, h_rest⟩ := List.forall_mem_append.mp h_words
    rw [applyAttributes, List.forall_mem_append, List.forall_mem_append]
    refine ⟨⟨namesFit_applyArguments fun argument h_argument => ?_, ?_⟩, ih h_rest⟩
    · cases h_key : argument.key with
      | none => decide
      | some name =>
        have h_word := h_own name (key_mem_words_of_readArguments h_argument h_key)
        exact not_spansLines_of_isWord h_word
    · intro issue h_issue
      obtain ⟨fault, -, rfl⟩ := Option.map_eq_some_iff.mp (Option.mem_toList.mp h_issue)
      trivial

/-- Issues about fields name no key. -/
theorem namesFit_readField (attributes : List Syntax.Attribute) :
    ∀ issue ∈ (readField attributes).2, issue.NamesFit := by
  intro issue h_issue
  obtain ⟨found, h_found, h_issue⟩ := List.mem_flatMap.mp h_issue
  obtain ⟨attr, -, rfl⟩ := List.mem_map.mp h_found
  rcases List.mem_append.mp h_issue with h_issue | h_issue
  · obtain ⟨_, -, rfl⟩ := List.mem_map.mp h_issue
    trivial
  · obtain ⟨fault, -, rfl⟩ := Option.map_eq_some_iff.mp (Option.mem_toList.mp h_issue)
    trivial

end Marker

theorem namesFit_accessor {access member : String} {renamed : List Problem}
    (h_access : Naming.IsAccess access) (h_accessor : accessor access = (member, renamed)) :
    ¬ SpansLines member ∧ ∀ problem ∈ renamed, problem.NamesFit := by
  have h_name := not_spansLines_pathSegment h_access
  have h_member := not_spansLines_accessor h_access
  rw [h_accessor] at h_member
  refine ⟨h_member, ?_⟩
  unfold accessor at h_accessor
  dsimp only at h_accessor
  split at h_accessor
  next =>
    cases h_accessor
    exact List.forall_mem_singleton.mpr ⟨h_name, h_member⟩
  next =>
    cases h_accessor
    exact List.forall_mem_nil _

theorem namesFit_warnings {attributes : List Syntax.Attribute} {ignored : Bool}
    {issues : List Marker.Issue} (h_read : Marker.readField attributes = (ignored, issues)) :
    ∀ problem ∈ issues.map Problem.argument, problem.NamesFit := by
  have h_issues := Marker.namesFit_readField attributes
  rw [h_read] at h_issues
  exact List.forall_mem_map.mpr h_issues

theorem namesFit_describeFields {resolver : Resolver} {index : Nat} {taken : List (String × String)}
    {fields : List Syntax.Field}
    (h_fields : ∀ field ∈ fields, ∀ index, Naming.IsAccess (fieldAccess index field))
    (h_taken : ∀ entry ∈ taken, ¬ SpansLines entry.2) :
    ∀ problem ∈ (describeFields resolver index taken fields).2, problem.NamesFit := by
  fun_induction describeFields resolver index taken fields
  case case1 => exact List.forall_mem_nil _
  case case2 h_read _ _ _ _ h_rest ih =>
    rw [h_rest] at ih
    obtain ⟨-, h_fields⟩ := List.forall_mem_cons.mp h_fields
    exact List.forall_mem_append.mpr ⟨namesFit_warnings h_read, ih h_fields h_taken⟩
  -- From here on, the field is tracked: its own problems, then that of its name or its type.
  case case3 index _ _ _ _ _ h_read _ _ access name member renamed h_accessor _ first h_found _ _
      h_rest ih =>
    rw [h_rest] at ih
    obtain ⟨h_field, h_fields⟩ := List.forall_mem_cons.mp h_fields
    obtain ⟨h_member, h_renamed⟩ := namesFit_accessor (h_field index) h_accessor
    have h_own := List.forall_mem_append.mpr ⟨namesFit_warnings h_read, h_renamed⟩
    have h_first := h_taken _ (List.mem_of_find?_eq_some h_found)
    have h_name := not_spansLines_pathSegment (h_field index)
    refine List.forall_mem_append.mpr ⟨h_own, ?_⟩
    exact List.forall_mem_cons.mpr ⟨⟨h_first, h_name, h_member⟩, ih h_fields h_taken⟩
  case case4 index _ _ _ _ _ h_read _ _ access name member renamed h_accessor _ _ _ h_rest _ _ ih =>
    rw [h_rest] at ih
    obtain ⟨h_field, h_fields⟩ := List.forall_mem_cons.mp h_fields
    obtain ⟨-, h_renamed⟩ := namesFit_accessor (h_field index) h_accessor
    have h_own := List.forall_mem_append.mpr ⟨namesFit_warnings h_read, h_renamed⟩
    have h_name := not_spansLines_pathSegment (h_field index)
    refine List.forall_mem_append.mpr ⟨h_own, ?_⟩
    exact ih h_fields (List.forall_mem_cons.mpr ⟨h_name, h_taken⟩)
  case case5 index _ _ _ _ _ h_read _ _ access name member renamed h_accessor _ _ _ h_rest _ _ ih =>
    rw [h_rest] at ih
    obtain ⟨h_field, h_fields⟩ := List.forall_mem_cons.mp h_fields
    obtain ⟨-, h_renamed⟩ := namesFit_accessor (h_field index) h_accessor
    have h_own := List.forall_mem_append.mpr ⟨namesFit_warnings h_read, h_renamed⟩
    have h_name := not_spansLines_pathSegment (h_field index)
    refine List.forall_mem_append.mpr ⟨h_own, List.forall_mem_cons.mpr ⟨h_name, ?_⟩⟩
    exact ih h_fields (List.forall_mem_cons.mpr ⟨h_name, h_taken⟩)

/-! ## Candidates -/

variable {candidate : Candidate} {found : Diagnostic}

theorem namesFit_describeStruct {decl : Syntax.Declaration} {fields : Syntax.Fields}
    (h_parsed : Syntax.parseItem? candidate.item = some (.struct decl fields)) :
    ∀ problem ∈ (describeStruct candidate decl fields).2, problem.NamesFit := by
  have h_words := Syntax.argumentWords_of_parseItem? h_parsed
  refine List.forall_mem_append.mpr ⟨List.forall_mem_map.mpr ?_,
    namesFit_describeFields (fun field h_field => isAccess_fieldAccess h_parsed h_field)
      (List.forall_mem_nil _)⟩
  refine Marker.namesFit_applyAttributes fun word h_word => h_words word ?_
  obtain ⟨attr, h_attr, h_word⟩ := List.mem_flatMap.mp h_word
  exact List.mem_flatMap.mpr ⟨attr, (List.mem_filter.mp h_attr).1, h_word⟩

/-- What is found about a candidate is a problem whose names fit on a line. -/
theorem exists_namesFit_of_mem_diagnostics (h_found : found ∈ (describe candidate).diagnostics) :
    ∃ problem : Problem, problem.NamesFit ∧ problem.diagnostic candidate.identity = found := by
  have h_refused {problem : Problem} (h_found : found ∈ [problem.diagnostic candidate.identity])
      (h_fit : problem.NamesFit) :
      ∃ problem : Problem, problem.NamesFit ∧ problem.diagnostic candidate.identity = found :=
    ⟨problem, h_fit, (List.mem_singleton.mp h_found).symm⟩
  unfold describe at h_found
  dsimp only at h_found
  split at h_found
  · exact h_refused h_found trivial
  split at h_found
  next decl fields h_parsed =>
    split at h_found
    · obtain ⟨problem, h_problem, rfl⟩ := List.mem_map.mp h_found
      exact ⟨problem, namesFit_describeStruct h_parsed problem h_problem, rfl⟩
    · exact h_refused h_found trivial
  next => exact h_refused h_found trivial

/-- The identity of a type in a module whose path fits on a line does so, too. -/
theorem not_spansLines_of_collect {modulePath label text : String}
    (h_module : ¬ SpansLines modulePath)
    (h_candidate : candidate ∈ (collect modulePath label text).candidates) :
    ¬ SpansLines candidate.identity.path ∧ ¬ SpansLines candidate.identity.name := by
  have h_name := not_spansLines_of_isIdentifier (isItemName_of_collect h_candidate).isIdentifier
  obtain ⟨modules, h_path, h_modules⟩ := modulePath_of_collect h_candidate
  refine ⟨?_, h_name⟩
  rw [declared_of_collect h_candidate, TypeIdentity.declared, h_path]
  simp only [spansLines_append, spansLines_joinSegments, List.exists_mem_cons_iff, not_or]
  refine ⟨⟨⟨h_module, ?_⟩, by decide⟩, h_name⟩
  rintro ⟨name, h_mem, h_break⟩
  exact not_spansLines_of_isIdentifier (h_modules name h_mem).isIdentifier h_break

theorem spansLines_diagnostic_iff {identity : TypeIdentity} {problem : Problem}
    (h_fit : problem.NamesFit) (h_path : ¬ SpansLines identity.path)
    (h_name : ¬ SpansLines identity.name) :
    SpansLines (problem.diagnostic identity).toLine ↔ problem.QuotesBreak := by
  have h_notes : ∀ note ∈ problem.notes, ¬ SpansLines note := by
    unfold Problem.notes
    cases problem <;> dsimp only <;> decide
  rw [spansLines_toLine]
  constructor
  · rintro (h_message | ⟨subject, h_subject, h_break⟩ | ⟨note, h_note, h_break⟩)
    · by_contra h_quotes
      exact Problem.not_spansLines_message h_fit h_name h_quotes h_message
    · cases h_subject
      exact absurd h_break h_path
    · exact absurd h_break (h_notes note h_note)
  · exact fun h_quotes => .inl (Problem.spansLines_of_quotesBreak h_quotes _)

/-- That a file cannot be read fits on a line if its path does. -/
theorem not_spansLines_of_mem_collected {source : Source} {found : Diagnostic}
    (h_path : ¬ SpansLines source.path) (h_found : found ∈ source.collected.diagnostics) :
    ¬ SpansLines found.toLine := by
  unfold Source.collected collect at h_found
  split at h_found
  next => cases h_found
  next =>
    rw [List.mem_singleton.mp h_found, spansLines_toLine]
    unfold Diagnostic.unreadableFile
    simp +decide only [h_path, Option.some.injEq, exists_eq_left']

/-! ## Findings of assembly -/

theorem not_spansLines_duplicateIdentity {identity : TypeIdentity}
    (h_path : ¬ SpansLines identity.path) (count : Nat) :
    ¬ SpansLines (Graph.duplicateIdentity identity count).toLine := by
  have h_count := not_spansLines_toString count
  rw [spansLines_toLine]
  unfold Graph.duplicateIdentity
  simp +decide only [spansLines_append, h_path, h_count, Option.some.injEq, exists_eq_left',
    List.exists_mem_cons_iff]

theorem not_spansLines_finding {clash : Graph.Clash} (h_name : ¬ SpansLines clash.generatedName)
    (h_paths : ∀ identity ∈ clash.identities, ¬ SpansLines identity.path) :
    ¬ SpansLines clash.finding.toLine := by
  have h_first := h_paths clash.first (.head _)
  have h_quoted : ∀ text ∈ clash.identities.map fun identity => "`" ++ identity.path ++ "`",
      ¬ SpansLines text := by
    refine List.forall_mem_map.mpr fun identity h_identity => ?_
    simp +decide only [spansLines_append, h_paths identity h_identity]
  have h_list : ¬ SpansLines (", ".intercalate
      (clash.identities.map fun identity => "`" ++ identity.path ++ "`")) := by
    rw [spansLines_intercalate (by decide)]
    exact fun ⟨text, h_text, h_break⟩ => h_quoted text h_text h_break
  unfold Graph.Clash.identities at h_list
  rw [spansLines_toLine]
  unfold Graph.Clash.finding Graph.nameClash
  simp +decide only [spansLines_append, h_name, h_list, h_first, Option.some.injEq,
    exists_eq_left', List.exists_mem_cons_iff]

namespace Compilation

variable {compilation : Compilation}

section Paths

variable (h_paths : ∀ source ∈ compilation.sources,
  ¬ SpansLines source.path ∧ ¬ SpansLines source.modulePath)
include h_paths

theorem not_spansLines_of_mem_candidates {candidate : Candidate}
    (h_candidate : candidate ∈ compilation.candidates) :
    ¬ SpansLines candidate.identity.path ∧ ¬ SpansLines candidate.identity.name := by
  obtain ⟨source, h_source, h_candidate⟩ := mem_candidates.mp h_candidate
  exact not_spansLines_of_collect (h_paths source h_source).2 h_candidate

theorem not_spansLines_of_mem_descriptors {d : Descriptor} (h_d : d ∈ compilation.descriptors) :
    ¬ SpansLines d.identity.path ∧ ¬ SpansLines d.generatedName := by
  obtain ⟨candidate, h_candidate, h_described⟩ := mem_descriptors.mp h_d
  rw [identity_of_describe h_described]
  refine ⟨(not_spansLines_of_mem_candidates h_paths h_candidate).1, ?_⟩
  rintro ⟨c, h_c, h_break⟩
  obtain ⟨source, -, h_candidate⟩ := mem_candidates.mp h_candidate
  exact (isForeign_of_isLineBreak h_break).not_mem_of_describe h_candidate h_described h_c

/-- What assembly reports fits on a line. -/
theorem not_spansLines_of_mem_graph_diagnostics {found : Diagnostic}
    (h_found : found ∈ compilation.graph.diagnostics) : ¬ SpansLines found.toLine := by
  rw [graph_eq, Graph.diagnostics_assemble, List.mem_append, List.mem_map, List.mem_map] at h_found
  rcases h_found with ⟨identity, h_identity, rfl⟩ | ⟨clash, h_clash, rfl⟩
  · have h_bearer : identity ∈ compilation.descriptors.map (·.identity) :=
      List.count_pos_iff.mp (Nat.lt_of_lt_of_le Nat.two_pos (Graph.mem_duplicates.mp h_identity))
    obtain ⟨d, h_d, rfl⟩ := List.mem_map.mp h_bearer
    exact not_spansLines_duplicateIdentity (not_spansLines_of_mem_descriptors h_paths h_d).1 _
  · -- Each identity of a clash is that of a descriptor with the name of the clash.
    have h_claimant {identity : TypeIdentity} (h_identity : identity ∈ clash.identities) :
        ¬ SpansLines identity.path ∧ ¬ SpansLines clash.generatedName := by
      obtain ⟨-, d, h_d, rfl, h_name⟩ := ((Graph.areFaults _).mem_identities clash h_clash _).mp
        h_identity
      rw [← h_name]
      exact not_spansLines_of_mem_descriptors h_paths h_d
    exact not_spansLines_finding (h_claimant (.head _)).2 fun identity h_identity =>
      (h_claimant h_identity).1

end Paths

/-- If no path of a file or module goes over several lines, then a diagnostic goes over several
    lines exactly if it is about a candidate and quotes such a text: the suffix that a marker asks
    for, or a type above the crate root. -/
theorem spansLines_toLine_iff (compilation : Compilation)
    (h_paths : ∀ source ∈ compilation.sources,
      ¬ SpansLines source.path ∧ ¬ SpansLines source.modulePath)
    {found : Diagnostic} (h_found : found ∈ compilation.generate.diagnostics) :
    SpansLines found.toLine ↔
      ∃ candidate ∈ compilation.candidates, found ∈ (describe candidate).diagnostics ∧
        ∃ problem : Problem, problem.QuotesBreak ∧
          problem.diagnostic candidate.identity = found := by
  constructor
  · intro h_spans
    rcases mem_diagnostics_generate.mp h_found with
      ⟨source, h_source, h_found⟩ | ⟨candidate, h_candidate, h_found⟩ | h_found
    · exact absurd h_spans (not_spansLines_of_mem_collected (h_paths source h_source).1 h_found)
    · obtain ⟨problem, h_fit, rfl⟩ := exists_namesFit_of_mem_diagnostics h_found
      obtain ⟨h_path, h_name⟩ := not_spansLines_of_mem_candidates h_paths h_candidate
      exact ⟨candidate, h_candidate, h_found, problem,
        (spansLines_diagnostic_iff h_fit h_path h_name).mp h_spans, rfl⟩
    · exact absurd h_spans (not_spansLines_of_mem_graph_diagnostics h_paths h_found)
  · rintro ⟨candidate, -, -, problem, h_quotes, rfl⟩
    exact (spansLines_toLine _).mpr (.inl (Problem.spansLines_of_quotesBreak h_quotes _))

/-- A type above the crate root with a literal that goes over two lines. -/
def literalCompilation : Compilation where
  sources :=
    [⟨"crate", "src/lib.rs", "#[derive(TrackDelta)] struct S(pub super::N<\"a\nb\">);"⟩]

theorem spansLines_toLine_literalCompilation :
    (∀ source ∈ literalCompilation.sources,
      ¬ SpansLines source.path ∧ ¬ SpansLines source.modulePath) ∧
      ∃ found ∈ literalCompilation.generate.diagnostics, found.code = .aboveRoot ∧
        SpansLines found.toLine := by
  have h_paths : ∀ source ∈ literalCompilation.sources,
      ¬ SpansLines source.path ∧ ¬ SpansLines source.modulePath := by decide +kernel
  have h_candidates : ∃ candidate ∈ literalCompilation.candidates,
      (Problem.aboveRoot "0" "super::N<\"a\nb\">").diagnostic candidate.identity ∈
        (describe candidate).diagnostics := by decide +kernel
  obtain ⟨candidate, h_candidate, h_described⟩ := h_candidates
  have h_found := mem_diagnostics_generate.mpr (.inr (.inl ⟨candidate, h_candidate, h_described⟩))
  have h_quotes : SpansLines "super::N<\"a\nb\">" := by decide
  exact ⟨h_paths, _, h_found, rfl, (spansLines_toLine_iff literalCompilation h_paths h_found).mpr
    ⟨candidate, h_candidate, h_described, .aboveRoot "0" "super::N<\"a\nb\">", h_quotes, rfl⟩⟩

/-- A suffix with an escaped line break. -/
def brokenSuffixCompilation : Compilation where
  sources :=
    [⟨"crate", "src/lib.rs", "#[derive(TrackDelta)] #[delta(suffix = \"a\\nb\")] struct S;"⟩]

/-- No text of the source needs to go over several lines itself. -/
theorem spansLines_brokenSuffixCompilation :
    (∀ source ∈ brokenSuffixCompilation.sources,
      ¬ SpansLines source.path ∧ ¬ SpansLines source.modulePath ∧ ¬ SpansLines source.text) ∧
      ∃ found ∈ brokenSuffixCompilation.generate.diagnostics,
        found.code = .argumentIgnored ∧ SpansLines found.toLine := by
  have h_described : ∃ candidate ∈ brokenSuffixCompilation.candidates,
      ∃ found ∈ (describe candidate).diagnostics,
        found.code = .argumentIgnored ∧ SpansLines found.toLine := by decide +kernel
  obtain ⟨candidate, h_candidate, found, h_found, h_spans⟩ := h_described
  exact ⟨by decide +kernel, found,
    mem_diagnostics_generate.mpr (.inr (.inl ⟨candidate, h_candidate, h_found⟩)), h_spans⟩

end Compilation
end FieldDelta
