import FieldDelta.Proofs.Rehoming.Leaves
import FieldDelta.Proofs.Resolution.Anchors
import FieldDelta.Proofs.Syntax.Grammar
import FieldDelta.Proofs.Syntax.TypeNames
import Mathlib.Data.List.Nodup

/-! # Climbing above the crate root

Two functions refuse a type for a path with more `super` segments than its module allows.
Rehoming looks at all paths of the type, wherever they stand.  Resolution looks at one path only:
the core of the type, inside its wrappers.

* `namings_perm` — rehoming looks at every path of a type once;
* `resolvePath_isError_iff` — resolution refuses exactly the paths that climb too high;
* `leaves_core` — the core of a type is a part of the type;
* `Resolver.declaredType_fails_as_rehomed` — so resolution never refuses what was rehomed.

Resolution takes marks off names and rehoming does not.  Both count the same steps because no
identifier is `super` behind its mark (`areIdentifiers_corePath`).
-/

namespace FieldDelta

open Syntax Naming

namespace Syntax

/-! ## Paths and leaves -/

/-- A path without its arguments: whether it has a leading `::`, and the names of its segments. -/
def Path.naming (path : Path) : Bool × List String :=
  (path.leading, path.names)

/-- The path at a leaf. -/
def Leaf.naming? : Leaf → Option (Bool × List String)
  | .path leading names | .qualified _ leading names => some (leading, names)
  | .token _ _ | .opening _ | .closing _ => none

/-- The number of `super` segments at the beginning of the path at a leaf.  A path behind a
    leading `::` begins with none. -/
def Leaf.climbs : Leaf → Nat
  | .path false names | .qualified _ false names => (names.takeWhile (· == "super")).length
  | _ => 0

/-- Turns put paths into another order. -/
theorem inTurns_perm (found : List (Turn × Path)) : (inTurns found).Perm (found.map (·.2)) := by
  induction found with
  | nil => exact .refl []
  | cons entry found ih =>
    obtain ⟨turn, path⟩ := entry
    have h_turn : turn ∈ Turn.all := by cases turn <;> decide
    have h_nodup : Turn.all.Nodup := by decide
    obtain ⟨before, behind, h_all⟩ := List.append_of_mem h_turn
    rw [h_all, List.nodup_middle, List.nodup_cons, List.mem_append, not_or] at h_nodup
    obtain ⟨⟨h_before, h_behind⟩, -⟩ := h_nodup
    -- It is not the path's turn before, nor behind.
    have h_skip {turns : List Turn} (h_turns : turn ∉ turns) :
        (turns.flatMap fun other => (((turn, path) :: found).filter (·.1 == other)).map (·.2)) =
          turns.flatMap fun other => (found.filter (·.1 == other)).map (·.2) := by
      refine List.flatMap_congr fun other h_other => ?_
      rw [List.filter_cons_of_neg]
      intro h_eq
      obtain rfl : turn = other := eq_of_beq h_eq
      exact h_turns h_other
    have h_own : ((turn, path) :: found).filter (·.1 == turn) =
        (turn, path) :: found.filter (·.1 == turn) :=
      List.filter_cons_of_pos (beq_self_eq_true turn)
    rw [inTurns, h_all, List.flatMap_append, List.flatMap_cons] at ih ⊢
    rw [h_skip h_before, h_skip h_behind, h_own, List.map_cons, List.map_cons, List.cons_append]
    exact List.perm_middle.trans (ih.cons path)

/-- The namings of paths that were found in turns. -/
def namings (found : List (Turn × Path)) : List (Bool × List String) :=
  found.map (·.2.naming)

theorem naming?_brackets (delimiter : Option Delimiter) (inner : List Leaf) :
    (Leaf.opening delimiter :: inner ++ [Leaf.closing delimiter]).filterMap Leaf.naming? =
      inner.filterMap Leaf.naming? := by
  rw [List.cons_append, List.filterMap_cons_none rfl, List.filterMap_append]
  exact List.append_nil _

theorem namings_append (found others : List (Turn × Path)) :
    namings (found ++ others) = namings found ++ namings others :=
  List.map_append

mutual

theorem Fragment.namings_perm (turn : Turn) (fragment : Fragment) :
    (namings (fragment.paths turn)).Perm (fragment.leaves.filterMap Leaf.naming?) := by
  cases fragment with
  | token tree => exact .refl []
  | path path =>
    obtain ⟨leading, segments⟩ := path
    exact (Segment.namings_perm turn segments).cons _
  | qualified self position path =>
    obtain ⟨leading, segments⟩ := path
    rw [Fragment.paths, namings_append, Fragment.leaves, List.filterMap_append]
    exact (Fragment.namings_perm_list turn self).append
      ((Segment.namings_perm turn segments).cons _)
  | group delimiter inner =>
    rw [Fragment.leaves, naming?_brackets]
    exact Fragment.namings_perm_list turn inner
  | angle elements trailing =>
    rw [Fragment.leaves, naming?_brackets]
    exact Argument.namings_perm turn elements
  | part turn' inner => exact Fragment.namings_perm_list turn' inner
  | construct inner =>
    have h_turns : (namings ((inTurns (Fragment.pathsOfList .body inner)).map (turn, ·))).Perm
        (namings (Fragment.pathsOfList .body inner)) := by
      simpa [namings, Function.comp_def] using
        (inTurns_perm (Fragment.pathsOfList .body inner)).map Path.naming
    exact h_turns.trans (Fragment.namings_perm_list .body inner)
  | implied type => exact Fragment.namings_perm_list turn type

theorem Fragment.namings_perm_list (turn : Turn) (phrase : List Fragment) :
    (namings (Fragment.pathsOfList turn phrase)).Perm
      ((Fragment.leavesOfList phrase).filterMap Leaf.naming?) := by
  cases phrase with
  | nil => exact .refl []
  | cons fragment rest =>
    rw [Fragment.pathsOfList, namings_append, Fragment.leavesOfList, List.filterMap_append]
    exact (Fragment.namings_perm turn fragment).append (Fragment.namings_perm_list turn rest)

theorem Segment.namings_perm (turn : Turn) (segments : List Segment) :
    (namings (Segment.pathsOfList turn segments)).Perm
      ((Segment.leavesOfList segments).filterMap Leaf.naming?) := by
  cases segments with
  | nil => exact .refl []
  | cons segment rest =>
    obtain ⟨name, arguments⟩ := segment
    rw [Segment.pathsOfList, namings_append, Segment.leavesOfList, List.filterMap_append]
    exact (Arguments.namings_perm turn arguments).append (Segment.namings_perm turn rest)

theorem Arguments.namings_perm (turn : Turn) (arguments : Arguments) :
    (namings (arguments.paths turn)).Perm (arguments.leaves.filterMap Leaf.naming?) := by
  cases arguments with
  | none => exact .refl []
  | angle turbofish elements trailing =>
    rw [Arguments.leaves, naming?_brackets]
    exact Argument.namings_perm turn elements
  | parenthesized phrase => exact Fragment.namings_perm_list turn phrase

theorem Argument.namings_perm (turn : Turn) (elements : List Argument) :
    (namings (Argument.pathsOfList turn elements)).Perm
      ((Argument.leavesOfList elements).filterMap Leaf.naming?) := by
  cases elements with
  | nil => exact .refl []
  | cons argument rest =>
    obtain ⟨kind, phrase⟩ := argument
    rw [Argument.pathsOfList, namings_append, Argument.leavesOfList, List.filterMap_append]
    exact (Fragment.namings_perm_list turn phrase).append (Argument.namings_perm turn rest)

end

/-- The paths that are looked at are the paths at the leaves, each once. -/
theorem namings_perm (phrase : Phrase) :
    (phrase.paths.map Path.naming).Perm (phrase.leaves.filterMap Leaf.naming?) := by
  have h_turns := (inTurns_perm (Fragment.pathsOfList .body phrase)).map Path.naming
  rw [List.map_map] at h_turns
  exact h_turns.trans (Fragment.namings_perm_list .body phrase)

theorem climbs_of_naming {path : Path} {leaf : Leaf} (h_leaf : leaf.naming? = some path.naming) :
    climbs path = leaf.climbs := by
  obtain ⟨leading, segments⟩ := path
  have h_climbs : climbs (.mk leading segments) =
      if leading then 0 else ((segments.map Segment.name).takeWhile (· == "super")).length := by
    cases leading with
    | true => rfl
    | false => exact climbs_eq rfl
  cases leaf with
  | path leading' names =>
    cases h_leaf
    rw [h_climbs]
    cases leading <;> rfl
  | qualified position leading' names =>
    cases h_leaf
    rw [h_climbs]
    cases leading <;> rfl
  | _ => cases h_leaf

/-- A path climbs too high among those that are looked at exactly if one does at a leaf. -/
theorem exists_climbs_iff (phrase : Phrase) (depth : Nat) :
    (∃ path ∈ phrase.paths, depth < climbs path) ↔
      ∃ leaf ∈ phrase.leaves, depth < leaf.climbs := by
  have h_mem (naming : Bool × List String) :
      naming ∈ phrase.paths.map Path.naming ↔ naming ∈ phrase.leaves.filterMap Leaf.naming? :=
    (namings_perm phrase).mem_iff
  simp only [List.mem_map, List.mem_filterMap] at h_mem
  constructor
  · rintro ⟨path, h_path, h_climbs⟩
    obtain ⟨leaf, h_leaf, h_naming⟩ := (h_mem path.naming).mp ⟨path, h_path, rfl⟩
    exact ⟨leaf, h_leaf, climbs_of_naming h_naming ▸ h_climbs⟩
  · rintro ⟨leaf, h_leaf, h_climbs⟩
    -- A leaf that climbs is a path.
    obtain ⟨naming, h_naming⟩ : ∃ naming, leaf.naming? = some naming := by
      cases leaf with
      | path leading names => exact ⟨_, rfl⟩
      | qualified position leading names => exact ⟨_, rfl⟩
      | _ => exact absurd h_climbs (Nat.not_lt_zero depth)
    obtain ⟨path, h_path, rfl⟩ := (h_mem naming).mpr ⟨leaf, h_leaf, h_naming⟩
    exact ⟨path, h_path, (climbs_of_naming h_naming).symm ▸ h_climbs⟩

/-! ## Parts of types -/

theorem leavesOfList_infix_of_mem {segment : Segment} {segments : List Segment}
    (h_segment : segment ∈ segments) :
    segment.arguments.leaves <:+: Segment.leavesOfList segments := by
  induction segments with
  | nil => cases h_segment
  | cons first rest ih =>
    obtain ⟨name, arguments⟩ := first
    rcases List.mem_cons.mp h_segment with rfl | h_segment
    · exact (List.prefix_append _ _).isInfix
    · exact (ih h_segment).trans (List.suffix_append _ _).isInfix

end Syntax

/-- The path at the end of an argument leads to the type that the argument is. -/
theorem argument?_eq_some {type argument : Phrase} (h_argument : argument? type = some argument) :
    ∃ path name turbofish trailing, type = [.path path] ∧
      .mk name (.angle turbofish [.mk .type argument] trailing) ∈ path.segments := by
  unfold argument? at h_argument
  split at h_argument
  next path =>
    split at h_argument
    next name turbofish argument trailing h_last =>
      cases h_argument
      exact ⟨path, name, turbofish, trailing, rfl, List.mem_of_getLast? h_last⟩
    next => cases h_argument
  next => cases h_argument

theorem leaves_argument {type argument : Phrase} (h_argument : argument? type = some argument) :
    argument.leaves <:+: type.leaves := by
  obtain ⟨⟨leading, segments⟩, name, turbofish, trailing, rfl, h_mem⟩ :=
    argument?_eq_some h_argument
  have h_inside : argument.leaves <:+: (Arguments.angle turbofish [.mk .type argument] trailing).leaves :=
    ⟨[.opening none], [.closing none], by simp [Arguments.leaves, Argument.leavesOfList, Phrase.leaves]⟩
  refine (h_inside.trans (leavesOfList_infix_of_mem h_mem)).trans ?_
  exact ⟨[.path leading (segments.map Segment.name)], [],
    by simp [Phrase.leaves, Fragment.leavesOfList, Fragment.leaves, Path.segments]⟩

/-- What passes from a type to its argument passes to the core of the type. -/
theorem core_induction {p : Phrase → Prop} {type : Phrase}
    (h_argument : ∀ outer inner, argument? outer = some inner → p outer → p inner)
    (h_type : p type) : p (unwrap type).2 := by
  have h_core := inside?_unwrap type
  generalize (unwrap type).2 = core at h_core ⊢
  cases h_wrapper : (unwrap type).1 <;> rw [h_wrapper] at h_core
  case plain =>
    cases h_core
    exact h_type
  case optional => exact h_argument _ _ h_core h_type
  case boxed => exact h_argument _ _ h_core h_type
  case optionalBoxed =>
    obtain ⟨inner, h_inner, h_core⟩ := Option.bind_eq_some_iff.mp h_core
    exact h_argument _ _ h_core (h_argument _ _ h_inner h_type)

/-- The core of a type is a part of the type. -/
theorem leaves_core (type : Phrase) : (unwrap type).2.leaves <:+: type.leaves :=
  core_induction (p := fun part => part.leaves <:+: type.leaves)
    (fun _ _ h_argument h_outer => (leaves_argument h_argument).trans h_outer) List.infix_rfl

theorem corePath?_eq_some {core : Phrase} {path : Path} (h_path : corePath? core = some path) :
    core = [.path path] := by
  unfold corePath? at h_path
  split at h_path
  · cases h_path
    rfl
  · cases h_path

/-- The path that is resolved is one of those that rehoming looks at. -/
theorem corePath_mem_leaves {type : Phrase} {path : Path}
    (h_path : corePath? (unwrap type).2 = some path) :
    .path path.leading path.names ∈ type.leaves := by
  have h_part := leaves_core type
  rw [corePath?_eq_some h_path] at h_part
  obtain ⟨leading, segments⟩ := path
  exact h_part.subset (.head _)

/-! ## Identifiers -/

/-- What the lexer reads as a word is an identifier. -/
theorem unmarkedIn_of_isProperWord {text : String} (h_text : Lexer.IsProperWord text) :
    UnmarkedIn Naming.neverRaw text := by
  intro h_mem
  rcases h_text with h_identifier | ⟨name, h_raw, h_identifier, h_name⟩
  · exact withoutRaw_of_plain (rawName?_of_isIdentifier h_identifier)
  · have h_all : ∀ name ∈ Naming.neverRaw, name = "" ∨ Lexer.neverRaw.contains name = true := by
      decide
    have h_unmarked : withoutRaw text = String.ofList name := by
      simp [withoutRaw, rawName?, h_raw]
    rw [h_unmarked] at h_mem
    rcases h_all _ h_mem with h_empty | h_never
    · obtain ⟨first, rest, rfl, -⟩ := h_identifier
      exact absurd (congrArg String.toList h_empty) (by simp)
    · rw [h_name] at h_never
      cases h_never

theorem mem_wordsOfList_joinSegmentTokens {tokens : List TokenTree} {segments : List (List TokenTree)}
    (h_tokens : tokens ∈ segments) :
    TokenTree.wordsOfList tokens ⊆ TokenTree.wordsOfList (joinSegmentTokens segments) := by
  induction segments with
  | nil => cases h_tokens
  | cons first rest ih =>
    cases rest with
    | nil =>
      rw [List.mem_singleton.mp h_tokens]
      exact List.Subset.refl _
    | cons next rest =>
      rw [joinSegmentTokens, TokenTree.wordsOfList_append, TokenTree.wordsOfList_append]
      · rcases List.mem_cons.mp h_tokens with rfl | h_tokens
        · rw [List.append_assoc]
          exact List.subset_append_left ..
        · exact List.Subset.trans (ih h_tokens) (List.subset_append_right ..)
      · nofun

theorem wordsOfList_segment {path : Path} {segment : Segment} (h_segment : segment ∈ path.segments) :
    TokenTree.wordsOfList segment.tokens ⊆ TokenTree.wordsOfList (Phrase.tokens [.path path]) := by
  obtain ⟨leading, segments⟩ := path
  have h_tokens : segment.tokens ∈ Segment.tokensOfList segments := by
    induction segments with
    | nil => cases h_segment
    | cons first rest ih =>
      rcases List.mem_cons.mp h_segment with rfl | h_segment
      · exact .head _
      · exact .tail _ (ih h_segment)
  simp only [Phrase.tokens, Fragment.tokensOfList, Fragment.tokens, Path.tokens, List.append_nil,
    TokenTree.wordsOfList_append]
  exact List.Subset.trans (mem_wordsOfList_joinSegmentTokens h_tokens)
    (List.subset_append_right ..)

theorem wordsOfList_argument {type argument : Phrase} (h_argument : argument? type = some argument) :
    TokenTree.wordsOfList argument.tokens ⊆ TokenTree.wordsOfList type.tokens := by
  obtain ⟨path, name, turbofish, trailing, rfl, h_mem⟩ := argument?_eq_some h_argument
  refine List.Subset.trans ?_ (wordsOfList_segment h_mem)
  intro word h_word
  simp only [Segment.tokens, Arguments.tokens, Argument.elements, Argument.element, angleTokens,
    withCommas, TokenTree.wordsOfList_append, TokenTree.wordsOfList_cons, List.mem_append]
  refine .inr (.inr (.inl (.inr ?_)))
  simpa [spellElements, punctuated, Phrase.tokens] using .inl h_word

/-- The core of a type that was parsed is written with identifiers. -/
theorem areIdentifiers_corePath {text : String} {type : Phrase}
    (h_type : parseType? text = some type) {path : Path}
    (h_path : corePath? (unwrap type).2 = some path) : AreIdentifiers path.names := by
  have h_words : TokenTree.wordsOfList (unwrap type).2.tokens ⊆ TokenTree.wordsOfList type.tokens :=
    core_induction
      (p := fun part => TokenTree.wordsOfList part.tokens ⊆ TokenTree.wordsOfList type.tokens)
      (fun _ _ h_argument => List.Subset.trans (wordsOfList_argument h_argument))
      (List.Subset.refl _)
  rw [corePath?_eq_some h_path] at h_words
  intro name h_name
  obtain ⟨⟨name, arguments⟩, h_segment, rfl⟩ := List.mem_map.mp h_name
  have h_own : name ∈ TokenTree.wordsOfList (Segment.mk name arguments).tokens := by
    rw [Segment.tokens, TokenTree.wordsOfList_cons]
    exact .head _
  exact unmarkedIn_of_isProperWord (isProperWord_of_mem_wordsOfList (writable_of_parseType? h_type)
    (h_words (wordsOfList_segment h_segment h_own)))

/-! ## Resolution -/

theorem not_isError_ok {ε α : Type} (value : α) :
    ¬ ∃ error, (Except.ok value : Except ε α) = .error error := by
  rintro ⟨error, h_error⟩
  cases h_error

/-- Names that begin with more steps than a module allows lead nowhere, and all others lead
    somewhere. -/
theorem absolutize_eq_none_iff {modulePath : String} {names : List String} :
    absolutize modulePath names = none ↔
      moduleDepth modulePath < (names.takeWhile (· == "super")).length := by
  have h_pos : 0 < (Text.segments modulePath).length :=
    List.length_pos_iff.mpr (Text.segments_ne_nil modulePath)
  cases names with
  | nil => simp [absolutize]
  | cons first rest =>
    by_cases h_super : first = "super"
    · have h_depth : moduleDepth modulePath + 1 = (Text.segments modulePath).length := by
        unfold moduleDepth
        omega
      simp only [h_super, absolutize, if_neg (show ¬ "super" = "crate" by decide),
        if_neg (show ¬ "super" = "self" by decide), if_true, ← h_depth, ite_eq_left_iff,
        reduceCtorEq, imp_false, not_not]
      exact Nat.add_one_le_iff
    · -- Without a step in front there is none to count.
      have h_none : (first :: rest).takeWhile (· == "super") = [] :=
        List.takeWhile_cons_of_neg (by simpa using h_super)
      rw [h_none]
      refine iff_of_false ?_ (Nat.not_lt_zero _)
      unfold absolutize
      simp only [if_neg h_super]
      split_ifs <;> exact not_false

namespace Resolver

variable {resolver : Resolver}

theorem absolute?_isError_iff {first : String} {rest : List String} :
    (∃ unresolvable, resolver.absolute? first rest = .error unresolvable) ↔
      moduleDepth resolver.modulePath < ((first :: rest).takeWhile (· == "super")).length := by
  by_cases h_anchor : first = "crate" ∨ first = "self" ∨ first = "super"
  · rw [← absolutize_eq_none_iff, absolute?, if_pos h_anchor]
    cases absolutize resolver.modulePath (first :: rest) with
    | none => exact iff_of_true ⟨_, rfl⟩ rfl
    | some path => exact iff_of_false (not_isError_ok _) (Option.some_ne_none path)
  · obtain ⟨-, -, h_super⟩ := by simpa only [not_or] using h_anchor
    have h_none : (first :: rest).takeWhile (· == "super") = [] :=
      List.takeWhile_cons_of_neg (by simpa using h_super)
    rw [h_none, absolute?, if_neg h_anchor]
    refine iff_of_false ?_ (Nat.not_lt_zero _)
    split
    · exact not_isError_ok _
    · split <;> exact not_isError_ok _

/-- Resolution refuses exactly the paths that climb higher than the module allows. -/
theorem resolvePath_isError_iff {path : Path} (h_names : AreIdentifiers path.names) :
    (∃ unresolvable, resolver.resolvePath path = .error unresolvable) ↔
      moduleDepth resolver.modulePath < climbs path := by
  cases h_leading : path.leading with
  | true =>
    obtain ⟨leading, segments⟩ := path
    obtain rfl : leading = true := h_leading
    exact iff_of_false (not_isError_ok _) (Nat.not_lt_zero _)
  | false =>
    rw [climbs_eq h_leading, ← length_takeWhile_super h_names, resolvePath, h_leading,
      if_neg Bool.false_ne_true]
    cases path.names.map withoutRaw with
    | nil => exact iff_of_false (not_isError_ok _) (Nat.not_lt_zero _)
    | cons first rest =>
      by_cases h_self : first = "Self"
      · simp only [if_pos h_self]
        rw [h_self]
        exact iff_of_false (not_isError_ok _) (Nat.not_lt_zero _)
      · rw [← absolute?_isError_iff]
        simp only [if_neg h_self]
        cases resolver.absolute? first rest with
        | error unresolvable => exact iff_of_true ⟨_, rfl⟩ ⟨_, rfl⟩
        | ok path? =>
          cases path? <;> exact iff_of_false (not_isError_ok _) (not_isError_ok _)

end Resolver

/-! ## Types -/

/-- A type whose core is written with identifiers is refused by rehoming or not at all.

    * Where rehoming gives a type, the path of the core is resolved.
    * The declared type fails exactly if rehoming does, and reports the same path.
    * It fails exactly if a path begins with more `super` segments than the module allows, wherever
      the path stands in the type. -/
theorem Resolver.declaredType_fails_as_rehomed (resolver : Resolver) (type : Phrase)
    (h_names : ∀ path ∈ corePath? (unwrap type).2, AreIdentifiers path.names) :
    (∀ rehomed,
      rehomeType type resolver.self.name (moduleDepth resolver.modulePath) = .ok rehomed →
      ∀ path ∈ corePath? (unwrap type).2, ∃ resolved, resolver.resolvePath path = .ok resolved) ∧
    (∀ unresolvable, resolver.declaredType type = .error unresolvable ↔
      rehomeType type resolver.self.name (moduleDepth resolver.modulePath) =
        .error unresolvable) ∧
    ((∃ unresolvable, resolver.declaredType type = .error unresolvable) ↔
      ∃ leaf ∈ type.leaves, moduleDepth resolver.modulePath < leaf.climbs) := by
  have h_rehome := rehomeType_isError_iff type resolver.self.name (moduleDepth resolver.modulePath)
  rw [exists_climbs_iff] at h_rehome
  -- The core climbs no higher than the highest path of the type.
  have h_resolves : ∀ rehomed,
      rehomeType type resolver.self.name (moduleDepth resolver.modulePath) = .ok rehomed →
      ∀ path ∈ corePath? (unwrap type).2,
        ∃ resolved, resolver.resolvePath path = .ok resolved := by
    intro rehomed h_rehomed path h_path
    cases h_outcome : resolver.resolvePath path with
    | ok resolved => exact ⟨resolved, rfl⟩
    | error unresolvable =>
      have h_climbs := (resolvePath_isError_iff (h_names path h_path)).mp ⟨_, h_outcome⟩
      have h_leaf : climbs path = (Leaf.path path.leading path.names).climbs :=
        climbs_of_naming rfl
      rw [h_leaf] at h_climbs
      obtain ⟨_, h_error⟩ := h_rehome.mpr ⟨_, corePath_mem_leaves h_path, h_climbs⟩
      rw [h_rehomed] at h_error
      cases h_error
  have h_same : ∀ unresolvable, resolver.declaredType type = .error unresolvable ↔
      rehomeType type resolver.self.name (moduleDepth resolver.modulePath) =
        .error unresolvable := by
    intro unresolvable
    rw [declaredType_eq]
    cases h_rehomed : rehomeType type resolver.self.name (moduleDepth resolver.modulePath) with
    | error _ => rw [Except.error.injEq, Except.error.injEq]
    | ok rehomed =>
      simp only [resolveCore_eq]
      cases h_core : corePath? (unwrap type).2 with
      | none => exact iff_of_false nofun nofun
      | some path =>
        obtain ⟨resolved, h_resolved⟩ := h_resolves rehomed h_rehomed path h_core
        simp only [h_resolved]
        exact iff_of_false nofun nofun
  exact ⟨h_resolves, h_same, (exists_congr h_same).trans h_rehome⟩

/-- `super::super::U` stands in a bound, inside an argument of the core.  The core is resolved where
    `super::super::U` leads somewhere, and elsewhere `super::super::U` is reported. -/
theorem Resolver.declaredType_fails_as_rehomed_bound :
    ∃ type, parseType? "Option<Box<super::T<dyn Fn(super::super::U) -> u8>>>" = some type ∧
      (∀ path ∈ corePath? (unwrap type).2, AreIdentifiers path.names) ∧
      (∃ path ∈ corePath? (unwrap type).2, path.names = ["super", "T"] ∧
        ∃ resolved, (bareResolver "crate::a::b").resolvePath path = .ok resolved) ∧
      (bareResolver "crate::a").declaredType type = .error ⟨"super::super::U"⟩ := by
  have h_facts : ((parseType? "Option<Box<super::T<dyn Fn(super::super::U) -> u8>>>").map fun type =>
      ((corePath? (unwrap type).2).map Path.names,
        (rehomeType type "Owner" (moduleDepth "crate::a::b")).toOption.isSome,
        (rehomeType type "Owner" (moduleDepth "crate::a")).map fun _ => ())) =
      some (some ["super", "T"], true, .error ⟨"super::super::U"⟩) := by
    decide +kernel
  obtain ⟨type, h_type, h_facts⟩ := Option.map_eq_some_iff.mp h_facts
  simp only [Prod.mk.injEq, Option.map_eq_some_iff] at h_facts
  obtain ⟨⟨path, h_path, h_path_names⟩, h_low, h_climbs⟩ := h_facts
  have h_names : ∀ path ∈ corePath? (unwrap type).2, AreIdentifiers path.names :=
    fun _ h_path => areIdentifiers_corePath h_type h_path
  have h_rehomed : ∃ rehomed,
      rehomeType type "Owner" (moduleDepth "crate::a::b") = .ok rehomed := by
    cases h_outcome : rehomeType type "Owner" (moduleDepth "crate::a::b") with
    | ok rehomed => exact ⟨rehomed, rfl⟩
    | error _ =>
      rw [h_outcome] at h_low
      cases h_low
  have h_refused : rehomeType type "Owner" (moduleDepth "crate::a") =
      .error ⟨"super::super::U"⟩ := by
    cases h_outcome : rehomeType type "Owner" (moduleDepth "crate::a") with
    | ok _ =>
      rw [h_outcome] at h_climbs
      cases h_climbs
    | error unresolvable =>
      rw [h_outcome] at h_climbs
      cases h_climbs
      rfl
  obtain ⟨rehomed, h_rehomed⟩ := h_rehomed
  have h_resolves := (declaredType_fails_as_rehomed (bareResolver "crate::a::b") type h_names).1
  exact ⟨type, h_type, h_names, ⟨path, h_path, h_path_names, h_resolves rehomed h_rehomed path h_path⟩,
    ((declaredType_fails_as_rehomed (bareResolver "crate::a") type h_names).2.1 _).mpr h_refused⟩

end FieldDelta
