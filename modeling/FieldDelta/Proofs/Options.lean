import FieldDelta.Options
import FieldDelta.Proofs.Naming.Legality

/-! # Support paths that can be spliced

Validation looks at the segments of a support path one by one.  So it accepts nothing but words
that a path may hold, and all paths of ASCII text that Rust takes; but it accepts an anchor in any
place, and `Options.validate_spliceable` says that this is all that it misses.

* `Naming.IsSpliceable` — the names that generated code may hold, as far as ASCII decides it;
* `Options.validate_eq_ok` — what validation comes to;
* `Options.validate_spliceable` — accepted support paths against the paths that Rust takes.
-/

namespace FieldDelta

open Naming (IsPlainIdentifier IsPath AreSegments AnchorsLead anchors)
open Syntax (IsIdentifier)
open Text (segments joinSegments)

/-! ## Identifiers in ASCII -/

/-- The text is made of ASCII characters. -/
def IsAscii (text : String) : Prop :=
  ∀ c ∈ text.toList, c.toNat < 0x80

instance (text : String) : Decidable (IsAscii text) :=
  inferInstanceAs (Decidable (∀ _ ∈ _, _))

/-- A name without separators that is an identifier and no keyword, as far as ASCII decides it. -/
def Naming.IsSpliceable (name : String) : Prop :=
  ':' ∉ name.toList ∧ (IsAscii name → IsPlainIdentifier name)

open Naming (IsSpliceable)

theorem isIdentifierStart_of_ascii {c : Char} (h_ascii : c.toNat < 0x80) :
    Unicode.isIdentifierStart c = (c == '_' || Unicode.isAlphabetic c) := by
  rw [Unicode.isIdentifierStart, Unicode.isAlphabetic, if_pos h_ascii, if_pos h_ascii]

theorem isIdentifierContinue_of_ascii {c : Char} (h_ascii : c.toNat < 0x80) :
    Unicode.isIdentifierContinue c = (c == '_' || Unicode.isAlphanumeric c) := by
  rw [Unicode.isIdentifierContinue, Unicode.isAlphanumeric, Unicode.isAlphabetic,
    Unicode.isNumeric, if_pos h_ascii, if_pos h_ascii, if_pos h_ascii, Char.isAlphanum]

theorem isPlainIdentifier_iff_of_isAscii {name : String} (h_ascii : IsAscii name) :
    isPlainIdentifier name = true ↔ IsPlainIdentifier name := by
  rw [Naming.isPlainIdentifier_iff, isPlainIdentifier]
  unfold IsAscii at h_ascii
  split
  next h_list => simp [h_list]
  next first rest h_list =>
    rw [h_list] at h_ascii
    obtain ⟨h_first, h_rest⟩ := List.forall_mem_cons.mp h_ascii
    have h_continue : (∀ c ∈ rest, Unicode.isIdentifierContinue c = true) ↔
        (rest.all fun c => c == '_' || Unicode.isAlphanumeric c) = true := by
      rw [List.all_eq_true]
      exact forall₂_congr fun c h_c => by rw [isIdentifierContinue_of_ascii (h_rest c h_c)]
    rw [h_list, Syntax.isIdentifier_cons, h_continue, isIdentifierStart_of_ascii h_first]
    simp [Naming.isKeyword, and_assoc]

theorem not_mem_of_isPlainIdentifier {name : String} {c : Char}
    (h_name : isPlainIdentifier name = true)
    (h_c : (c == '_' || Unicode.isAlphanumeric c) = false) : c ∉ name.toList := by
  unfold isPlainIdentifier at h_name
  split at h_name
  next => cases h_name
  next first rest h_list =>
    simp only [Bool.and_eq_true, List.all_eq_true] at h_name
    obtain ⟨⟨⟨h_first, h_rest⟩, -⟩, -⟩ := h_name
    rw [h_list]
    intro h_mem
    rcases List.mem_cons.mp h_mem with rfl | h_mem
    · rw [Unicode.isAlphanumeric, ← Bool.or_assoc, h_first] at h_c
      cases h_c
    · rw [h_rest c h_mem] at h_c
      cases h_c

theorem isSpliceable_of_isPlainIdentifier {name : String} (h_name : isPlainIdentifier name = true) :
    IsSpliceable name :=
  ⟨not_mem_of_isPlainIdentifier h_name (by decide +kernel),
    fun h_ascii => (isPlainIdentifier_iff_of_isAscii h_ascii).mp h_name⟩

theorem isPlainIdentifier_not_mem_anchors {name : String} (h_name : IsPlainIdentifier name) :
    name ∉ anchors := by
  have h_all : ∀ anchor ∈ anchors, anchor ∈ Naming.keywords := by decide
  exact fun h_anchor => h_name.not_keyword (h_all name h_anchor)

theorem isSpliceable_not_mem_anchors (name : String) (h_name : IsSpliceable name) :
    name ∉ anchors := by
  have h_all : ∀ anchor ∈ anchors, IsAscii anchor := by decide
  exact fun h_anchor => isPlainIdentifier_not_mem_anchors (h_name.2 (h_all name h_anchor)) h_anchor

theorem isModuleSegment_iff {segment : String} :
    isModuleSegment segment = true ↔ segment ∈ anchors ∨ isPlainIdentifier segment = true := by
  simp [isModuleSegment, anchors, or_assoc]

/-! ## The separator in front -/

/-- Without the separator in front of it, a path has lost its first, empty segment, and a path
    without one is left as it is. -/
theorem withoutLeadingSeparator_cases (path : String) :
    segments path = "" :: segments (withoutLeadingSeparator path) ∨
    withoutLeadingSeparator path = path ∧ ∀ names ≠ [], segments path ≠ "" :: names := by
  unfold withoutLeadingSeparator
  split
  next rest h_list =>
    left
    rw [segments, h_list, Text.splitSegments, List.map_cons, segments, String.toList_ofList]
  next h_bare =>
    refine .inr ⟨rfl, fun names h_nonempty h_segments => ?_⟩
    obtain ⟨name, names, rfl⟩ := List.exists_cons_of_ne_nil h_nonempty
    have h_path := Text.joinSegments_segments path
    rw [h_segments] at h_path
    refine h_bare (joinSegments (name :: names)).toList ?_
    rw [← h_path, Text.toList_joinSegments_cons]
    rfl

theorem Text.subset_of_mem_splitSegments {cs : List Char} :
    ∀ piece ∈ Text.splitSegments cs, piece ⊆ cs := by
  fun_induction Text.splitSegments cs
  case case1 => simp
  case case2 rest ih =>
    refine List.forall_mem_cons.mpr ⟨List.nil_subset _, fun piece h_piece => ?_⟩
    exact List.Subset.trans (ih piece h_piece) (by simp)
  case case3 c rest _ ih =>
    obtain ⟨first, others, h_pieces⟩ := List.exists_cons_of_ne_nil (Text.splitSegments_ne_nil rest)
    rw [h_pieces] at ih ⊢
    obtain ⟨h_first, h_others⟩ := List.forall_mem_cons.mp ih
    rw [Text.consFirst, List.forall_mem_cons]
    exact ⟨List.cons_subset_cons c h_first, fun piece h_piece =>
      List.Subset.trans (h_others piece h_piece) (List.subset_cons_self _ _)⟩

theorem isAscii_of_mem_segments {path segment : String} (h_ascii : IsAscii path)
    (h_segment : segment ∈ segments path) : IsAscii segment := by
  obtain ⟨piece, h_piece, rfl⟩ := List.mem_map.mp h_segment
  intro c h_c
  rw [String.toList_ofList] at h_c
  exact h_ascii c (Text.subset_of_mem_splitSegments piece h_piece h_c)

namespace Options

variable {options : Options}

/-! ## Validation -/

/-- Options are accepted if each segment of the support path may stand somewhere in a path, the
    deltas module is an identifier, and there is a directory. -/
theorem validate_eq_ok : options.validate = .ok () ↔
    (∀ segment ∈ segments (withoutLeadingSeparator options.supportPath),
      isModuleSegment segment = true) ∧
    isPlainIdentifier options.deltasModule = true ∧ options.includeRoot ≠ .directory "" := by
  have h_empty : ∀ path : String, path.isEmpty = true →
      (segments path).all isModuleSegment = false := by
    intro path h_path
    rw [String.isEmpty_iff.mp h_path]
    decide
  rw [← List.all_eq_true]
  unfold validate
  dsimp only
  generalize withoutLeadingSeparator options.supportPath = path
  cases h_segments : (segments path).all isModuleSegment with
  | false => simp
  | true =>
    have h_path : path.isEmpty = false := by
      cases h_path : path.isEmpty with
      | false => rfl
      | true =>
        rw [h_empty path h_path] at h_segments
        cases h_segments
    rw [h_path]
    by_cases h_module : isPlainIdentifier options.deltasModule <;>
      by_cases h_root : options.includeRoot = .directory "" <;> simp [h_module, h_root]

/-- Every segment of an accepted support path is an anchor or a name. -/
theorem segments_of_validate (h_valid : options.validate = .ok ()) :
    ∀ segment ∈ segments (withoutLeadingSeparator options.supportPath),
      segment ∈ anchors ∨ IsSpliceable segment := by
  intro segment h_segment
  have h_accepted := isModuleSegment_iff.mp ((validate_eq_ok.mp h_valid).1 segment h_segment)
  exact h_accepted.imp_right isSpliceable_of_isPlainIdentifier

/-- An accepted support path is one that Rust takes exactly if its anchors stand where a path may
    have them.  And all paths of ASCII text that Rust takes are accepted, if the other options
    are. -/
theorem validate_spliceable (options : Options) :
    (options.validate = .ok () →
      (IsPath IsSpliceable options.supportPath ↔ AnchorsLead (segments options.supportPath))) ∧
    (IsAscii options.supportPath → IsPath IsSpliceable options.supportPath →
      isPlainIdentifier options.deltasModule = true → options.includeRoot ≠ .directory "" →
      options.validate = .ok ()) := by
  constructor
  · intro h_valid
    refine ⟨Naming.anchorsLead_of_areSegments isSpliceable_not_mem_anchors, fun h_lead => ?_⟩
    have h_parts := segments_of_validate h_valid
    unfold IsPath
    rcases withoutLeadingSeparator_cases options.supportPath with h_rooted | ⟨h_bare, -⟩
    · rw [h_rooted] at h_lead ⊢
      exact Naming.areSegments_rooted_of_anchorsLead (Text.segments_ne_nil _) h_parts h_lead
    · rw [h_bare] at h_parts
      exact Naming.areSegments_of_anchorsLead (Text.segments_ne_nil _) h_parts h_lead
  · intro h_ascii h_path h_module h_root
    refine validate_eq_ok.mpr ⟨fun segment h_segment => ?_, h_module, h_root⟩
    have h_accepted : ∀ name ∈ segments options.supportPath, IsSpliceable name →
        isModuleSegment name = true := by
      intro name h_mem h_name
      have h_ascii := isAscii_of_mem_segments h_ascii h_mem
      have h_plain := (isPlainIdentifier_iff_of_isAscii h_ascii).mpr (h_name.2 h_ascii)
      exact isModuleSegment_iff.mpr (.inr h_plain)
    have h_cases := withoutLeadingSeparator_cases options.supportPath
    unfold IsPath at h_path
    generalize h_parts : segments options.supportPath = parts at h_path h_accepted h_cases
    cases h_path with
    | @rooted names h_nonempty h_names =>
      rcases h_cases with h_rooted | ⟨-, h_bare⟩
      · obtain ⟨-, rfl⟩ := List.cons.inj h_rooted
        exact h_accepted segment (.tail _ h_segment) (h_names segment h_segment)
      · exact absurd rfl (h_bare names h_nonempty)
    | @anchored anchor names h_anchor h_nonempty h_names =>
      rcases h_cases with h_rooted | ⟨h_bare, -⟩
      · -- Neither an anchor nor a name is empty.
        have h_empty : "" ∈ anchor ++ names := h_rooted ▸ .head _
        rcases List.mem_append.mp h_empty with h_empty | h_empty
        · exact absurd (Naming.mem_anchors_of_isAnchor h_anchor _ h_empty) (by decide)
        · exact absurd ((h_names _ h_empty).2 (by decide)) (by decide)
      · rw [h_bare, h_parts] at h_segment
        rcases List.mem_append.mp h_segment with h_mem | h_mem
        · exact isModuleSegment_iff.mpr (.inl (Naming.mem_anchors_of_isAnchor h_anchor _ h_mem))
        · exact h_accepted segment h_segment (h_names segment h_mem)

/-- A support path that climbs from the module of the generated code. -/
def climbingOptions : Options where
  supportPath := "self::super::support"

theorem validate_spliceable_climbingOptions :
    climbingOptions.validate = .ok () ∧ AnchorsLead (segments climbingOptions.supportPath) ∧
      IsPath IsSpliceable climbingOptions.supportPath := by
  have h_segments : segments climbingOptions.supportPath =
      ["self", "super"] ++ ["support"] := by
    decide
  have h_path : IsPath IsSpliceable climbingOptions.supportPath := by
    rw [IsPath, h_segments]
    refine .anchored (.climb (.self 1)) (by decide) ?_
    simp only [List.forall_mem_singleton]
    exact ⟨by decide, fun _ => by decide⟩
  have h_valid := (validate_spliceable climbingOptions).2 (by decide) h_path (by decide)
    (by decide)
  exact ⟨h_valid, ((validate_spliceable climbingOptions).1 h_valid).mp h_path, h_path⟩

/-- A support path with an anchor behind the separator in front. -/
def rootedOptions : Options where
  supportPath := "::crate::support"

/-- The path is accepted, though `crate` may not stand there. -/
theorem not_isPath_rootedOptions :
    rootedOptions.validate = .ok () ∧ ¬ IsPath IsSpliceable rootedOptions.supportPath := by
  refine ⟨by decide, fun h_path => ?_⟩
  have h_segments : segments rootedOptions.supportPath = [""] ++ "crate" :: ["support"] := by
    decide
  have h_lead := Naming.anchorsLead_of_areSegments isSpliceable_not_mem_anchors h_path
  have h_crate := h_lead [""] "crate" ["support"] h_segments (by decide)
  exact absurd (h_crate.resolve_left (List.cons_ne_nil _ _)).1 (by decide)

end Options
end FieldDelta
