import FieldDelta.Proofs.Naming
import Mathlib.Data.List.Basic
import Mathlib.Data.List.Induction

/-! # Names and paths that Rust takes

A name can be written as it stands if it is an identifier and neither a keyword nor the lone
underscore; a keyword that has a raw form can be written in that form.  A path consists of such
names behind `::`, behind an anchor, or on their own.  The grammar is stated here apart from the
checks that the pipeline makes, so that these can be compared with it.

* `Naming.IsPlainIdentifier`, `Naming.IsSegment` — the names;
* `Naming.IsPath` — the paths over given names;
* `Naming.anchorsLead_of_areSegments`, `Naming.areSegments_of_anchorsLead` — a path is one whose
  anchors stand in front;
* `Naming.isPath_concat`, `Naming.opensPath_joinSegments` — a path with more names behind it.
-/

namespace FieldDelta

namespace Syntax

open Unicode (isIdentifierStart isIdentifierContinue)

/-! ## Identifiers -/

@[simp] theorem isIdentifier_cons {first : Char} {rest : List Char} :
    IsIdentifier (first :: rest) ↔
      isIdentifierStart first = true ∧ ∀ c ∈ rest, isIdentifierContinue c = true := by
  constructor
  · rintro ⟨first, rest, h_eq, h_start, h_continue⟩
    cases h_eq
    exact ⟨h_start, h_continue⟩
  · rintro ⟨h_start, h_continue⟩
    exact ⟨first, rest, rfl, h_start, h_continue⟩

@[simp] theorem not_isIdentifier_nil : ¬ IsIdentifier [] := by
  rintro ⟨_, _, h_eq, _⟩
  cases h_eq

instance : (cs : List Char) → Decidable (IsIdentifier cs)
  | [] => isFalse not_isIdentifier_nil
  | _ :: _ => decidable_of_iff _ isIdentifier_cons.symm

/-- What is put behind an identifier has to continue it. -/
theorem isIdentifier_append {front back : List Char} (h_front : IsIdentifier front) :
    IsIdentifier (front ++ back) ↔ ∀ c ∈ back, isIdentifierContinue c = true := by
  obtain ⟨first, rest, rfl, h_start, h_continue⟩ := h_front
  rw [List.cons_append, isIdentifier_cons, List.forall_mem_append]
  exact ⟨fun h_all => h_all.2.2, fun h_back => ⟨h_start, h_continue, h_back⟩⟩

end Syntax

/-- What stands in front of the last separator and behind it can be told from a path. -/
theorem Text.concat_inj {front front' name name' : String} (h_name : ':' ∉ name.toList)
    (h_name' : ':' ∉ name'.toList) (h_eq : front ++ "::" ++ name = front' ++ "::" ++ name') :
    front = front' ∧ name = name' := by
  have h_last := splitLast?_append h_name front.toList
  have h_lists : front.toList ++ ':' :: ':' :: name.toList =
      front'.toList ++ ':' :: ':' :: name'.toList := by
    simpa [← String.toList_inj] using h_eq
  rw [h_lists, splitLast?_append h_name', Option.some.injEq, Prod.mk.injEq] at h_last
  exact ⟨String.toList_inj.mp h_last.1.symm, String.toList_inj.mp h_last.2.symm⟩

theorem Text.segments_concat {front name : String} (h_name : ':' ∉ name.toList)
    (h_front : ∀ part ∈ segments front, ':' ∉ part.toList) :
    segments (front ++ "::" ++ name) = segments front ++ [name] := by
  have h_parts : ∀ part ∈ segments front ++ [name], ':' ∉ part.toList :=
    List.forall_mem_append.mpr ⟨h_front, by simpa using h_name⟩
  rw [← segments_joinSegments (by simp) h_parts, joinSegments_concat (segments_ne_nil front),
    joinSegments_segments]

/-- Unless colons run into one another, the name behind the last separator is the last segment. -/
theorem Text.segments_of_concat {front name : String} (h_name : ':' ∉ name.toList)
    (h_parts : ∀ part ∈ segments (front ++ "::" ++ name), ':' ∉ part.toList) :
    segments (front ++ "::" ++ name) = segments front ++ [name] := by
  have h_text := joinSegments_segments (front ++ "::" ++ name)
  rcases (segments (front ++ "::" ++ name)).eq_nil_or_concat' with h_nil | ⟨parts, last, h_split⟩
  · exact absurd h_nil (segments_ne_nil _)
  rw [h_split] at h_parts h_text ⊢
  obtain ⟨h_parts, h_last⟩ := List.forall_mem_append.mp h_parts
  have h_last := h_last last (.head _)
  have h_nonempty : parts ≠ [] := by
    rintro rfl
    -- One part alone holds no separator.
    refine h_last ?_
    have h_text : last = front ++ "::" ++ name := by simpa [joinSegments] using h_text
    simp [h_text]
  rw [joinSegments_concat h_nonempty] at h_text
  obtain ⟨rfl, rfl⟩ := concat_inj h_last h_name h_text
  rw [segments_joinSegments h_nonempty h_parts]

open Syntax (IsIdentifier)
open Text (segments joinSegments)

namespace Naming

/-! ## Names -/

/-- A name that can be written as it stands. -/
structure IsPlainIdentifier (name : String) : Prop where
  isIdentifier : IsIdentifier name.toList
  ne_underscore : name ≠ "_"
  not_keyword : name ∉ keywords

theorem isPlainIdentifier_iff {name : String} :
    IsPlainIdentifier name ↔ IsIdentifier name.toList ∧ name ≠ "_" ∧ name ∉ keywords :=
  ⟨fun h_name => ⟨h_name.1, h_name.2, h_name.3⟩, fun ⟨h_1, h_2, h_3⟩ => ⟨h_1, h_2, h_3⟩⟩

instance (name : String) : Decidable (IsPlainIdentifier name) :=
  decidable_of_iff _ isPlainIdentifier_iff.symm

/-- A segment of a path: a name as it stands, or a keyword in its raw form. -/
def IsSegment (name : String) : Prop :=
  IsPlainIdentifier name ∨ ∃ keyword ∈ keywords, keyword ∉ pathKeywords ∧ name = "r#" ++ keyword

instance (name : String) : Decidable (IsSegment name) :=
  inferInstanceAs (Decidable (_ ∨ _))

/-- Only a name with the mark of a raw one is a segment for being a keyword. -/
theorem isSegment_iff {name : String} (h_unmarked : '#' ∉ name.toList) :
    IsSegment name ↔ IsPlainIdentifier name := by
  refine ⟨fun h_name => h_name.resolve_right ?_, .inl⟩
  rintro ⟨keyword, -, -, rfl⟩
  exact h_unmarked (by simp)

theorem colon_not_mem_of_isPlainIdentifier {name : String} (h_name : IsPlainIdentifier name) :
    ':' ∉ name.toList :=
  h_name.isIdentifier.not_mem (by decide) (by decide)

theorem colon_not_mem_of_isSegment {name : String} (h_name : IsSegment name) :
    ':' ∉ name.toList := by
  rcases h_name with h_plain | ⟨keyword, h_keyword, -, rfl⟩
  · exact colon_not_mem_of_isPlainIdentifier h_plain
  · have h_all : ∀ keyword ∈ keywords, ':' ∉ keyword.toList := by decide
    simpa using h_all keyword h_keyword

/-! ## Anchors -/

/-- The words that may stand in front of the names of a path. -/
def anchors : List String :=
  ["crate", "self", "super"]

def isAnchorWord (word : String) : Bool :=
  anchors.contains word

@[simp] theorem isAnchorWord_iff {word : String} : isAnchorWord word = true ↔ word ∈ anchors :=
  List.contains_iff_mem

/-- A run of `super`, perhaps behind `self`. -/
inductive IsClimb : List String → Prop where
  | supers (levels : Nat) : IsClimb (List.replicate levels "super")
  | self (levels : Nat) : IsClimb ("self" :: List.replicate levels "super")

/-- What the names of a path may stand behind: `crate`, a climb, or nothing. -/
inductive IsAnchor : List String → Prop where
  | crate : IsAnchor ["crate"]
  | climb {front : List String} (h_climb : IsClimb front) : IsAnchor front

/-- The parts between the separators of a path, whose names have the property.  A path that begins
    with a separator has the empty text in front of it, and no anchor. -/
inductive AreSegments (isName : String → Prop) : List String → Prop where
  | rooted {names : List String} (h_nonempty : names ≠ []) (h_names : ∀ name ∈ names, isName name) :
    AreSegments isName ("" :: names)
  | anchored {anchor names : List String} (h_anchor : IsAnchor anchor)
    (h_nonempty : anchor ++ names ≠ []) (h_names : ∀ name ∈ names, isName name) :
    AreSegments isName (anchor ++ names)

/-- A path over names with the given property. -/
def IsPath (isName : String → Prop) (path : String) : Prop :=
  AreSegments isName (segments path)

/-- Each anchor stands at the front, or is a `super` behind a climb. -/
def AnchorsLead (segments : List String) : Prop :=
  ∀ front anchor rest, segments = front ++ anchor :: rest → anchor ∈ anchors →
    front = [] ∨ anchor = "super" ∧ IsClimb front

theorem IsClimb.cases_of_append {front rest : List String} {anchor : String}
    (h_climb : IsClimb (front ++ anchor :: rest)) :
    front = [] ∨ anchor = "super" ∧ IsClimb front := by
  generalize h_all : front ++ anchor :: rest = all at h_climb
  cases h_climb with
  | supers levels =>
    obtain ⟨-, h_front, h_rest⟩ := List.append_eq_replicate_iff.mp h_all
    rw [h_front]
    exact .inr ⟨List.eq_of_mem_replicate (h_rest ▸ List.mem_cons_self), .supers _⟩
  | self levels =>
    cases front with
    | nil => exact .inl rfl
    | cons first front =>
      rw [List.cons_append] at h_all
      obtain ⟨rfl, h_tail⟩ := List.cons.inj h_all
      obtain ⟨-, h_front, h_rest⟩ := List.append_eq_replicate_iff.mp h_tail
      rw [h_front]
      exact .inr ⟨List.eq_of_mem_replicate (h_rest ▸ List.mem_cons_self), .self _⟩

theorem IsClimb.head_ne_crate {rest : List String} : ¬ IsClimb ("crate" :: rest) := by
  intro h_climb
  generalize h_all : "crate" :: rest = all at h_climb
  cases h_climb with
  | supers levels =>
    have h_word := List.eq_of_mem_replicate (h_all ▸ List.mem_cons_self)
    exact absurd h_word (by decide)
  | self levels => exact absurd (List.cons.inj h_all).1 (by decide)

theorem mem_anchors_of_isClimb {front : List String} (h_climb : IsClimb front) :
    ∀ word ∈ front, word ∈ anchors := by
  cases h_climb with
  | supers levels =>
    intro word h_word
    rw [List.eq_of_mem_replicate h_word]
    decide
  | self levels =>
    refine List.forall_mem_cons.mpr ⟨by decide, fun word h_word => ?_⟩
    rw [List.eq_of_mem_replicate h_word]
    decide

theorem mem_anchors_of_isAnchor {words : List String} (h_anchor : IsAnchor words) :
    ∀ word ∈ words, word ∈ anchors := by
  cases h_anchor with
  | crate => decide
  | climb h_climb => exact mem_anchors_of_isClimb h_climb

theorem not_isAnchor_concat {name : String} (h_name : name ∉ anchors) (front : List String) :
    ¬ IsAnchor (front ++ [name]) :=
  fun h_anchor => h_name (mem_anchors_of_isAnchor h_anchor name (by simp))

/-- What ends in a separator and a name that is no anchor leads to no anchor either. -/
theorem not_isAnchor_concat_concat {name : String} (h_plain : ':' ∉ name.toList)
    (h_name : name ∉ anchors) (front last : String) :
    ¬ IsAnchor (segments (front ++ "::" ++ name) ++ [last]) := by
  intro h_anchor
  have h_words := (List.forall_mem_append.mp (mem_anchors_of_isAnchor h_anchor)).1
  have h_colon : ∀ anchor ∈ anchors, ':' ∉ anchor.toList := by decide
  have h_segments := Text.segments_of_concat h_plain fun part h_part =>
    h_colon part (h_words part h_part)
  exact h_name (h_words name (by simp [h_segments]))

/-- Words none of which stands where it may not are an anchor. -/
theorem isAnchor_of_anchorsLead {words : List String} (h_words : ∀ word ∈ words, word ∈ anchors)
    (h_lead : AnchorsLead words) : IsAnchor words := by
  match words with
  | [] => exact .climb (.supers 0)
  | first :: rest =>
    obtain ⟨h_first, h_rest⟩ := List.forall_mem_cons.mp h_words
    have h_supers : ∀ word ∈ rest, word = "super" := by
      intro word h_word
      obtain ⟨front, behind, rfl⟩ := List.append_of_mem h_word
      exact ((h_lead (first :: front) word behind rfl (h_rest word h_word)).resolve_left
        (List.cons_ne_nil _ _)).1
    have h_rest := List.eq_replicate_of_mem h_supers
    have h_cases : first = "crate" ∨ first = "self" ∨ first = "super" := by
      simpa [anchors] using h_first
    rcases h_cases with rfl | rfl | rfl
    · cases rest with
      | nil => exact .crate
      | cons next rest =>
        -- No climb begins with `crate`.
        have h_next := h_lead ["crate"] next rest rfl (h_words next (by simp))
        exact absurd (h_next.resolve_left (List.cons_ne_nil _ _)).2 IsClimb.head_ne_crate
    · rw [h_rest]
      exact .climb (.self _)
    · rw [h_rest, ← List.replicate_succ]
      exact .climb (.supers _)

section Names

variable {isName : String → Prop} {parts : List String}

/-! ## Paths -/

/-- In what is put together as a path, anchors lead. -/
theorem anchorsLead_of_areSegments (h_apart : ∀ name, isName name → name ∉ anchors)
    (h_path : AreSegments isName parts) : AnchorsLead parts := by
  intro front anchor rest h_split h_anchor
  cases h_path with
  | rooted _ h_names =>
    cases front with
    | nil => exact .inl rfl
    | cons first front =>
      obtain ⟨-, rfl⟩ := List.cons.inj h_split
      exact absurd h_anchor (h_apart anchor (h_names anchor (by simp)))
  | @anchored leading names h_leading _ h_names =>
    have h_not_named : anchor ∉ names := fun h_mem => h_apart anchor (h_names anchor h_mem) h_anchor
    rcases List.append_eq_append_iff.mp h_split with ⟨between, -, rfl⟩ | ⟨between, rfl, h_rest⟩
    · exact absurd (by simp) h_not_named
    cases between with
    | nil =>
      rw [List.nil_append] at h_rest
      exact absurd (h_rest ▸ .head _) h_not_named
    | cons first between =>
      obtain ⟨rfl, -⟩ := List.cons.inj h_rest
      generalize h_all : front ++ anchor :: between = all at h_leading
      cases h_leading with
      | crate =>
        rcases List.append_eq_singleton_iff.mp h_all with ⟨rfl, -⟩ | ⟨-, h_nil⟩
        · exact .inl rfl
        · cases h_nil
      | climb h_climb =>
        rw [← h_all] at h_climb
        exact h_climb.cases_of_append

/-- Anchors and names are put together as a path if the anchors lead. -/
theorem areSegments_of_anchorsLead (h_nonempty : parts ≠ [])
    (h_parts : ∀ part ∈ parts, part ∈ anchors ∨ isName part) (h_lead : AnchorsLead parts) :
    AreSegments isName parts := by
  have h_split := List.takeWhile_append_dropWhile (p := isAnchorWord) (l := parts)
  rw [← h_split] at h_nonempty ⊢
  refine .anchored ?_ h_nonempty fun name h_name => ?_
  · refine isAnchor_of_anchorsLead (fun word h_word => ?_) fun front anchor rest h_front => ?_
    · exact isAnchorWord_iff.mp (List.mem_takeWhile_imp h_word)
    · rw [h_front, List.append_assoc, List.cons_append] at h_split
      exact h_lead front anchor _ h_split.symm
  · refine (h_parts name ((List.dropWhile_suffix _).subset h_name)).resolve_left fun h_anchor => ?_
    -- The first part that is no anchor stands in front of every later one.
    have h_head := List.head?_dropWhile_not isAnchorWord parts
    obtain ⟨between, behind, h_behind⟩ := List.append_of_mem h_name
    rw [h_behind] at h_split h_head
    have h_name := h_lead (parts.takeWhile isAnchorWord ++ between) name behind (by
      rw [List.append_assoc, h_split]) h_anchor
    cases between with
    | nil => simp [isAnchorWord_iff.mpr h_anchor] at h_head
    | cons first between =>
      obtain ⟨-, h_climb⟩ := h_name.resolve_left (by simp)
      have h_first := mem_anchors_of_isClimb h_climb first (by simp)
      simp [isAnchorWord_iff.mpr h_first] at h_head

/-- With a separator in front of the first of them, no anchor leads. -/
theorem areSegments_rooted_of_anchorsLead (h_nonempty : parts ≠ [])
    (h_parts : ∀ part ∈ parts, part ∈ anchors ∨ isName part) (h_lead : AnchorsLead ("" :: parts)) :
    AreSegments isName ("" :: parts) := by
  refine .rooted h_nonempty fun part h_part => (h_parts part h_part).resolve_left fun h_anchor => ?_
  obtain ⟨front, rest, rfl⟩ := List.append_of_mem h_part
  obtain ⟨-, h_climb⟩ := (h_lead ("" :: front) part rest rfl h_anchor).resolve_left
    (List.cons_ne_nil _ _)
  exact absurd (mem_anchors_of_isClimb h_climb _ (.head _)) (by decide)

/-- A path has no parts but anchors and names, the empty one in front apart. -/
theorem part_of_areSegments (h_path : AreSegments isName parts) :
    ∀ part ∈ parts, part = "" ∨ part ∈ anchors ∨ isName part := by
  intro part h_part
  cases h_path with
  | rooted _ h_names =>
    exact (List.mem_cons.mp h_part).imp_right fun h_part => .inr (h_names part h_part)
  | anchored h_anchor _ h_names =>
    refine .inr ((List.mem_append.mp h_part).imp (fun h_part => ?_) (h_names part))
    exact mem_anchors_of_isAnchor h_anchor part h_part

theorem areSegments_concat {name : String} (h_name : ¬ IsAnchor (parts ++ [name]))
    (h_nonempty : parts ≠ []) :
    AreSegments isName (parts ++ [name]) ↔
      (parts = [""] ∨ AreSegments isName parts) ∧ isName name := by
  constructor
  · intro h_path
    generalize h_all : parts ++ [name] = all at h_path
    cases h_path with
    | @rooted names _ h_names =>
      obtain ⟨first, front, rfl⟩ := List.exists_cons_of_ne_nil h_nonempty
      rw [List.cons_append] at h_all
      obtain ⟨rfl, rfl⟩ := List.cons.inj h_all
      obtain ⟨h_front, h_last⟩ := List.forall_mem_append.mp h_names
      refine ⟨?_, h_last name (.head _)⟩
      cases front with
      | nil => exact .inl rfl
      | cons next front => exact .inr (.rooted (List.cons_ne_nil _ _) h_front)
    | @anchored anchor names h_anchor _ h_names =>
      rcases names.eq_nil_or_concat' with rfl | ⟨front, last, rfl⟩
      · rw [List.append_nil] at h_all
        exact absurd (h_all ▸ h_anchor) h_name
      · rw [← List.append_assoc] at h_all
        obtain ⟨rfl, h_last⟩ := List.append_inj' h_all rfl
        obtain ⟨h_front, h_names⟩ := List.forall_mem_append.mp h_names
        obtain rfl := List.singleton_inj.mp h_last
        exact ⟨.inr (.anchored h_anchor h_nonempty h_front), h_names name (.head _)⟩
  · rintro ⟨rfl | h_path, h_last⟩
    · exact .rooted (List.cons_ne_nil _ _) (by simpa using h_last)
    · cases h_path with
      | rooted _ h_names =>
        exact .rooted (by simp) (List.forall_mem_append.mpr ⟨h_names, by simpa using h_last⟩)
      | anchored h_anchor _ h_names =>
        rw [List.append_assoc]
        exact .anchored h_anchor (by simp)
          (List.forall_mem_append.mpr ⟨h_names, by simpa using h_last⟩)

/-! ## Paths with more names -/

/-- What a name may stand behind, with a separator between: a path, or nothing. -/
def OpensPath (isName : String → Prop) (front : String) : Prop :=
  front = "" ∨ IsPath isName front

variable {front : String} (h_colon : ∀ name, isName name → ':' ∉ name.toList)

include h_colon

theorem colon_not_mem_of_areSegments (h_path : AreSegments isName parts) :
    ∀ part ∈ parts, ':' ∉ part.toList := by
  have h_anchors : ∀ anchor ∈ anchors, ':' ∉ anchor.toList := by decide
  intro part h_part
  rcases part_of_areSegments h_path part h_part with rfl | h_anchor | h_name
  · simp
  · exact h_anchors part h_anchor
  · exact h_colon part h_name

/-- A text that ends in a separator and a name is a path exactly if the name may be one and stands
    behind what opens a path. -/
theorem isPath_concat {name : String} (h_plain : ':' ∉ name.toList)
    (h_name : ¬ IsAnchor (segments front ++ [name])) :
    IsPath isName (front ++ "::" ++ name) ↔ OpensPath isName front ∧ isName name := by
  have h_concat : AreSegments isName (segments front ++ [name]) ↔
      (segments front = [""] ∨ AreSegments isName (segments front)) ∧ isName name :=
    areSegments_concat h_name (Text.segments_ne_nil front)
  constructor
  · intro h_path
    have h_segments := Text.segments_of_concat h_plain (colon_not_mem_of_areSegments h_colon h_path)
    rw [IsPath, h_segments, h_concat] at h_path
    refine h_path.imp_left (Or.imp_left fun h_empty => ?_)
    rw [← Text.joinSegments_segments front, h_empty]
    rfl
  · rintro ⟨h_opens, h_last⟩
    have h_front : segments front = [""] ∨ AreSegments isName (segments front) :=
      h_opens.imp_left fun h_empty => by rw [h_empty]; rfl
    have h_parts : ∀ part ∈ segments front, ':' ∉ part.toList := by
      rcases h_front with h_empty | h_path
      · simp [h_empty]
      · exact colon_not_mem_of_areSegments h_colon h_path
    rw [IsPath, Text.segments_concat h_plain h_parts]
    exact h_concat.mpr ⟨h_front, h_last⟩

/-- Names may stand behind a front, one after the other, exactly if it opens a path and they are
    names. -/
theorem opensPath_joinSegments {names : List String}
    (h_names : ∀ name ∈ names, ':' ∉ name.toList ∧ name ∉ anchors) :
    OpensPath isName (joinSegments (front :: names)) ↔
      OpensPath isName front ∧ ∀ name ∈ names, isName name := by
  induction names using List.reverseRecOn with
  | nil => simp [joinSegments]
  | append_singleton names last ih =>
    obtain ⟨h_names, h_last⟩ := List.forall_mem_append.mp h_names
    obtain ⟨h_plain, h_anchor⟩ := h_last last (.head _)
    have h_nonempty : joinSegments (front :: names) ++ "::" ++ last ≠ "" := by
      simp
    rw [← List.cons_append, Text.joinSegments_concat (List.cons_ne_nil _ _), OpensPath,
      or_iff_right h_nonempty, isPath_concat h_colon h_plain (not_isAnchor_concat h_anchor _),
      ih h_names, List.forall_mem_append, List.forall_mem_singleton, and_assoc]

end Names

end Naming
end FieldDelta
