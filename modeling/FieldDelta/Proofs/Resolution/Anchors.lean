import FieldDelta.Proofs.Resolution.RawNames
import FieldDelta.Proofs.Syntax.Equality
import FieldDelta.Syntax.Parse
import Mathlib.Data.List.DropRight

/-! # Anchored paths

A path that begins with `self` or `super` starts from the module that it is written in: each
`super` drops the last segment of the module path.  Two functions count these steps.  One looks
for types that climb above the crate root, the other puts the identity together.

* `Path.anchored` — such a path by its parts;
* `climbs_anchored`, `absolutize_anchored` — what the two functions count;
* `Resolver.declaredType_anchored` — both together.  The steps behind a `self` are counted by
  neither, so `self::super::T` is not the same as `super::T`.
-/

namespace FieldDelta

open Syntax Naming

namespace Syntax

/-! ## Paths by their parts -/

/-- The path that is written as `self`, if `fromSelf` is set, the given number of `super` steps,
    and the segments `rest`. -/
def Path.anchored (fromSelf : Bool) (steps : Nat) (rest : List Segment) : Path :=
  .mk false ((if fromSelf then [.plain "self"] else []) ++ List.replicate steps (.plain "super")
    ++ rest)

/-- The segments do not go on with a step. -/
def EndsSteps (rest : List Segment) : Prop :=
  ∀ next ∈ rest.head?, withoutRaw next.name ≠ "super"

instance : DecidablePred EndsSteps := fun rest =>
  inferInstanceAs (Decidable (∀ next ∈ rest.head?, _))

/-- The names of segments, without the marks of raw ones. -/
def plainNamesOf (segments : List Segment) : List String :=
  segments.map fun segment => withoutRaw segment.name

/-- The paths inside the arguments of segments. -/
def argumentPaths (segments : List Segment) : List Path :=
  inTurns (Segment.pathsOfList .body segments)

theorem mem_inTurns {found : List (Turn × Path)} {path : Path} :
    path ∈ inTurns found ↔ ∃ turn, (turn, path) ∈ found := by
  simp only [inTurns, List.mem_flatMap, List.mem_map, List.mem_filter]
  constructor
  · rintro ⟨turn, -, ⟨turn', path'⟩, ⟨h_found, -⟩, rfl⟩
    exact ⟨turn', h_found⟩
  · rintro ⟨turn, h_found⟩
    -- Every turn is among all turns.
    have h_turn : turn ∈ Turn.all := by cases turn <;> decide
    exact ⟨turn, h_turn, (turn, path), ⟨h_found, beq_self_eq_true turn⟩, rfl⟩

/-- A type that is a path holds that path and those in its arguments. -/
theorem mem_paths_path {path inside : Path} :
    inside ∈ Phrase.paths [.path path] ↔ inside = path ∨ inside ∈ argumentPaths path.segments := by
  obtain ⟨leading, segments⟩ := path
  simp only [Phrase.paths, argumentPaths, mem_inTurns, Fragment.pathsOfList, Fragment.paths,
    Path.paths, Path.segments, List.append_nil, List.mem_cons]
  constructor
  · rintro ⟨turn, h_eq | h_mem⟩
    · exact .inl (Prod.mk.inj h_eq).2
    · exact .inr ⟨turn, h_mem⟩
  · rintro (rfl | ⟨turn, h_mem⟩)
    · exact ⟨.body, .inl rfl⟩
    · exact ⟨turn, .inr h_mem⟩

theorem pathsOfList_plain_append (turn : Turn) {plain : List Segment}
    (h_plain : ∀ segment ∈ plain, segment.arguments = .none) (rest : List Segment) :
    Segment.pathsOfList turn (plain ++ rest) = Segment.pathsOfList turn rest := by
  induction plain with
  | nil => rfl
  | cons segment plain ih =>
    obtain ⟨name, arguments⟩ := segment
    obtain rfl : arguments = .none := h_plain _ (.head _)
    rw [List.cons_append, Segment.pathsOfList, ih fun other h_other => h_plain other (.tail _ h_other)]
    simp [Arguments.paths]

variable {fromSelf : Bool} {steps : Nat} {rest : List Segment}

theorem argumentPaths_anchored :
    argumentPaths (Path.anchored fromSelf steps rest).segments = argumentPaths rest := by
  unfold argumentPaths
  congr 1
  refine pathsOfList_plain_append .body (fun segment h_segment => ?_) rest
  rcases List.mem_append.mp h_segment with h_self | h_super
  · cases fromSelf with
    | true => rw [List.mem_singleton.mp h_self]; rfl
    | false => cases h_self
  · rw [List.eq_of_mem_replicate h_super]
    rfl

end Syntax

/-! ## Counting steps -/

variable {fromSelf : Bool} {steps : Nat} {rest : List Segment}

theorem length_takeWhile_steps (steps : Nat) {names : List String}
    (h_names : ∀ next ∈ names.head?, next ≠ "super") :
    ((List.replicate steps "super" ++ names).takeWhile (· == "super")).length = steps := by
  have h_end : names.takeWhile (· == "super") = [] := by
    cases names with
    | nil => rfl
    | cons next names => simpa using h_names next rfl
  rw [List.takeWhile_append_of_pos (by simp), h_end]
  simp

theorem names_anchored :
    (Path.anchored fromSelf steps rest).names =
      (if fromSelf then ["self"] else []) ++ List.replicate steps "super" ++
        rest.map Segment.name := by
  cases fromSelf <;> simp [Path.anchored, Path.names, Path.segments, Segment.plain, Segment.name]

theorem plainNames_anchored :
    (Path.anchored fromSelf steps rest).names.map withoutRaw =
      (if fromSelf then ["self"] else []) ++ List.replicate steps "super" ++ plainNamesOf rest := by
  have h_self : withoutRaw "self" = "self" := by decide
  have h_super : withoutRaw "super" = "super" := by decide
  rw [names_anchored]
  cases fromSelf <;> simp [h_self, h_super, plainNamesOf, Segment.name, Function.comp_def]

theorem head?_plainNamesOf (h_rest : EndsSteps rest) :
    ∀ next ∈ (plainNamesOf rest).head?, next ≠ "super" := by
  cases rest with
  | nil => nofun
  | cons next rest =>
    intro name h_name
    rw [← Option.some.inj h_name]
    exact h_rest next rfl

/-- Climbing is looked for at the very front of a path: a `self` hides it. -/
theorem climbs_anchored (h_rest : EndsSteps rest) :
    climbs (.anchored fromSelf steps rest) = if fromSelf then 0 else steps := by
  rw [climbs_eq rfl, names_anchored]
  cases fromSelf with
  | true => rfl
  | false =>
    refine length_takeWhile_steps steps fun next h_next => ?_
    cases rest with
    | nil => cases h_next
    | cons segment rest =>
      rw [← Option.some.inj h_next]
      intro h_super
      exact h_rest segment rfl (by rw [h_super]; decide)

/-- The path of the module is cut for the steps at the front only.  Those behind a `self` are taken
    for names. -/
theorem absolutize_anchored (modulePath : String) {names : List String}
    (h_anchor : fromSelf = true ∨ 0 < steps) (h_names : ∀ next ∈ names.head?, next ≠ "super") :
    absolutize modulePath
        ((if fromSelf then ["self"] else []) ++ List.replicate steps "super" ++ names) =
      if fromSelf then some (Text.segments modulePath ++ List.replicate steps "super" ++ names)
      else if steps ≤ moduleDepth modulePath then
        some ((Text.segments modulePath).rdrop steps ++ names)
      else none := by
  have h_pos : 0 < (Text.segments modulePath).length :=
    List.length_pos_iff.mpr (Text.segments_ne_nil modulePath)
  cases fromSelf with
  | true => simp [absolutize]
  | false =>
    cases steps with
    | zero => cases h_anchor with
      | inl h_self => cases h_self
      | inr h_steps => exact absurd h_steps (Nat.lt_irrefl 0)
    | succ before =>
      have h_count := length_takeWhile_steps (before + 1) h_names
      simp only [Bool.false_eq_true, if_false, List.nil_append, absolutize, List.replicate_succ,
        List.cons_append] at h_count ⊢
      rw [if_neg (by decide), if_neg (by decide), if_pos trivial, h_count]
      have h_iff : before + 1 ≤ moduleDepth modulePath ↔
          ¬ (Text.segments modulePath).length ≤ before + 1 := by
        unfold moduleDepth
        omega
      by_cases h_above : (Text.segments modulePath).length ≤ before + 1
      · rw [if_pos h_above, if_neg (by rwa [h_iff, not_not])]
      · rw [if_neg h_above, if_pos (h_iff.mpr h_above)]
        simp [List.rdrop]

/-! ## Types that are anchored paths -/

/-- No wrapper is named by an anchored path. -/
theorem unwrap_anchored (h_anchor : fromSelf = true ∨ 0 < steps) :
    unwrap [.path (.anchored fromSelf steps rest)] =
      (.plain, [.path (.anchored fromSelf steps rest)]) := by
  have h_first : ∃ first others, (Path.anchored fromSelf steps rest).names = first :: others ∧
      first ∈ ["self", "super"] := by
    rw [names_anchored]
    cases fromSelf with
    | true => exact ⟨"self", _, rfl, by decide⟩
    | false =>
      cases steps with
      | zero => simp at h_anchor
      | succ before => exact ⟨"super", _, rfl, by decide⟩
  obtain ⟨first, others, h_names, h_first⟩ := h_first
  have h_single (home name : String) (h_name : name ∉ ["self", "super"]) :
      singleArgument? home name [.path (.anchored fromSelf steps rest)] = none := by
    have h_ne : first ≠ name := fun h_eq => h_name (h_eq ▸ h_first)
    have h_root : first ∉ wrapperRoots := by
      intro h_root
      simp only [List.mem_cons, List.not_mem_nil, or_false] at h_first
      rcases h_first with rfl | rfl <;> revert h_root <;> decide
    unfold singleArgument?
    simp only [h_names]
    refine if_neg ?_
    rcases others with _ | ⟨second, _ | ⟨third, _ | ⟨_, _⟩⟩⟩ <;> simp [h_ne, h_root]
  rw [unwrap, optionArgument?, boxArgument?, h_single _ _ (by decide), h_single _ _ (by decide)]

namespace Resolver

variable (resolver : Resolver)

theorem resolvePath_anchored (h_anchor : fromSelf = true ∨ 0 < steps) (h_rest : EndsSteps rest) :
    (∃ resolved, resolver.resolvePath (.anchored fromSelf steps rest) = .ok resolved ∧
      resolved.core = some ⟨Text.joinSegments (if fromSelf then
        Text.segments resolver.modulePath ++ List.replicate steps "super" ++ plainNamesOf rest
        else (Text.segments resolver.modulePath).rdrop steps ++ plainNamesOf rest)⟩ ∧
      (fromSelf = true ∨ steps ≤ moduleDepth resolver.modulePath)) ∨
    (∃ unresolvable, resolver.resolvePath (.anchored fromSelf steps rest) = .error unresolvable) ∧
      fromSelf = false ∧ moduleDepth resolver.modulePath < steps := by
  have h_absolute := absolutize_anchored resolver.modulePath h_anchor (head?_plainNamesOf h_rest)
  -- The first name decides how the path is resolved.
  have h_cons : ∃ first others, (if fromSelf then ["self"] else []) ++
      List.replicate steps "super" ++ plainNamesOf rest = first :: others ∧
      first ≠ "Self" ∧ (first = "crate" ∨ first = "self" ∨ first = "super") := by
    cases fromSelf with
    | true => exact ⟨"self", _, rfl, by decide, by decide⟩
    | false =>
      cases steps with
      | zero => simp at h_anchor
      | succ before => exact ⟨"super", _, rfl, by decide, by decide⟩
  obtain ⟨first, others, h_names, h_Self, h_first⟩ := h_cons
  have h_resolve : resolver.resolvePath (.anchored fromSelf steps rest) =
      (absolutize resolver.modulePath (first :: others)).elim
        (.error ⟨Text.joinSegments (first :: others)⟩) fun path =>
          .ok ⟨some ⟨Text.joinSegments path⟩, resolver.globCandidates first others⟩ := by
    unfold resolvePath
    rw [plainNames_anchored, h_names]
    simp only [Path.anchored, Path.leading, Bool.false_eq_true, if_false, if_neg h_Self, absolute?,
      if_pos h_first]
    cases absolutize resolver.modulePath (first :: others) <;> rfl
  rw [h_names] at h_absolute
  rw [h_resolve, h_absolute]
  cases fromSelf with
  | true => exact .inl ⟨_, rfl, rfl, .inl rfl⟩
  | false =>
    by_cases h_steps : steps ≤ moduleDepth resolver.modulePath
    · rw [if_neg Bool.false_ne_true, if_pos h_steps]
      exact .inl ⟨_, rfl, rfl, .inr h_steps⟩
    · rw [if_neg Bool.false_ne_true, if_neg h_steps]
      exact .inr ⟨⟨_, rfl⟩, rfl, Nat.lt_of_not_le h_steps⟩

/-- Whether a type holds a path that climbs too high decides whether it is rehomed. -/
theorem rehomeType_isError_iff (type : Phrase) (owner : String) (depth : Nat) :
    (∃ unresolvable, rehomeType type owner depth = .error unresolvable) ↔
      ∃ path ∈ type.paths, depth < climbs path := by
  unfold rehomeType
  cases h_find : type.paths.find? (fun path => depth < climbs path) with
  | some path =>
    have h_climbs := List.find?_some h_find
    exact iff_of_true ⟨_, rfl⟩ ⟨path, List.mem_of_find?_eq_some h_find, by simpa using h_climbs⟩
  | none =>
    rw [List.find?_eq_none] at h_find
    refine iff_of_false nofun ?_
    rintro ⟨path, h_path, h_climbs⟩
    exact h_find path h_path (by simpa using h_climbs)

/-- A type that is an anchored path is rejected if the path, or one in its arguments, climbs above
    the crate root, and otherwise gets its identity.  The steps of a path that begins with `self`
    are not counted. -/
theorem declaredType_of_anchored (h_anchor : fromSelf = true ∨ 0 < steps)
    (h_rest : EndsSteps rest) :
    ((∃ unresolvable,
        resolver.declaredType [.path (.anchored fromSelf steps rest)] = .error unresolvable) ↔
      fromSelf = false ∧ moduleDepth resolver.modulePath < steps ∨
        ∃ path ∈ argumentPaths rest, moduleDepth resolver.modulePath < climbs path) ∧
    ∀ type, resolver.declaredType [.path (.anchored fromSelf steps rest)] = .ok type →
      type.core = some ⟨Text.joinSegments (if fromSelf then
        Text.segments resolver.modulePath ++ List.replicate steps "super" ++ plainNamesOf rest
        else (Text.segments resolver.modulePath).rdrop steps ++ plainNamesOf rest)⟩ := by
  have h_rehome := rehomeType_isError_iff [.path (.anchored fromSelf steps rest)]
    resolver.self.name (moduleDepth resolver.modulePath)
  simp only [mem_paths_path, argumentPaths_anchored, or_and_right, exists_or, exists_eq_left,
    climbs_anchored h_rest] at h_rehome
  have h_climbs : moduleDepth resolver.modulePath < (if fromSelf then 0 else steps) ↔
      fromSelf = false ∧ moduleDepth resolver.modulePath < steps := by
    cases fromSelf <;> simp
  rw [h_climbs] at h_rehome
  rw [declaredType_eq, unwrap_anchored h_anchor]
  cases h_outcome : rehomeType [.path (.anchored fromSelf steps rest)] resolver.self.name
      (moduleDepth resolver.modulePath) with
  | error unresolvable =>
    rw [h_outcome] at h_rehome
    exact ⟨iff_of_true ⟨_, rfl⟩ (h_rehome.mp ⟨_, rfl⟩), nofun⟩
  | ok rehomed =>
    rw [h_outcome] at h_rehome
    have h_low := mt h_rehome.mpr nofun
    -- What is rehomed is resolved: both functions count the same steps.
    rcases resolvePath_anchored resolver h_anchor h_rest with
      ⟨resolved, h_resolved, h_core, -⟩ | ⟨-, h_above⟩
    · simp only [resolveCore, h_resolved, Except.map]
      refine ⟨iff_of_false nofun h_low, fun type h_type => ?_⟩
      rw [← Except.ok.inj h_type]
      exact h_core
    · exact absurd (.inl h_above) h_low

/-- A path that starts with steps, or with a `self` and no steps, is resolved as the language has
    it: the module path loses a segment for each step, and the type is rejected exactly if there
    are too many, be it here or in an argument.  Behind a `self`, any number of steps is let
    through, and they become part of the identity. -/
theorem declaredType_anchored (resolver : Resolver) (fromSelf : Bool) (steps : Nat)
    (rest : List Segment) (h_anchor : fromSelf = true ∨ 0 < steps) (h_rest : EndsSteps rest) :
    (fromSelf = false ∨ steps = 0 →
      ((∃ unresolvable,
          resolver.declaredType [.path (.anchored fromSelf steps rest)] = .error unresolvable) ↔
        moduleDepth resolver.modulePath < steps ∨
          ∃ path ∈ argumentPaths rest, moduleDepth resolver.modulePath < climbs path) ∧
      ∀ type, resolver.declaredType [.path (.anchored fromSelf steps rest)] = .ok type →
        type.core = some ⟨Text.joinSegments
          ((Text.segments resolver.modulePath).rdrop steps ++ plainNamesOf rest)⟩) ∧
    (fromSelf = true → 0 < steps →
      ((∃ unresolvable,
          resolver.declaredType [.path (.anchored fromSelf steps rest)] = .error unresolvable) ↔
        ∃ path ∈ argumentPaths rest, moduleDepth resolver.modulePath < climbs path) ∧
      ∀ type, resolver.declaredType [.path (.anchored fromSelf steps rest)] = .ok type →
        type.core = some ⟨Text.joinSegments (Text.segments resolver.modulePath ++
          List.replicate steps "super" ++ plainNamesOf rest)⟩) := by
  obtain ⟨h_error, h_core⟩ := declaredType_of_anchored resolver h_anchor h_rest
  constructor
  · intro h_plain
    cases fromSelf with
    | false =>
      simp only [true_and, Bool.false_eq_true, if_false] at h_error h_core
      exact ⟨h_error, h_core⟩
    | true =>
      obtain rfl : steps = 0 := h_plain.resolve_left nofun
      refine ⟨by simpa using h_error, fun type h_type => ?_⟩
      simpa [List.rdrop] using h_core type h_type
  · rintro rfl -
    simp only [Bool.true_eq_false, false_and, false_or, if_true] at h_error h_core
    exact ⟨h_error, h_core⟩

/-- What types in the given module resolve to, where nothing is imported. -/
def bareResolver (modulePath : String) : Resolver where
  modulePath := modulePath
  self := .declared modulePath "Owner"
  scope := {}

/-- The segment `T<self::U, super::V>`. -/
def nestedAnchors : List Segment :=
  ((parsePath? "T<self::U, super::V>").map Path.segments).getD []

/-- `super::super::T<self::U, super::V>` in a module that allows two steps. -/
theorem declaredType_nestedAnchors :
    (false = true ∨ 0 < 2) ∧ EndsSteps nestedAnchors ∧
    ((bareResolver "crate::a::b").declaredType [.path (.anchored false 2 nestedAnchors)]).toOption.map
        (fun type => (type.spelled, type.core)) =
      some ("super::super::super::T<super::U, super::super::V>", some ⟨"crate::T"⟩) ∧
    ((∃ unresolvable, (bareResolver "crate::a::b").declaredType
          [.path (.anchored false 2 nestedAnchors)] = .error unresolvable) ↔
        moduleDepth "crate::a::b" < 2 ∨
          ∃ path ∈ argumentPaths nestedAnchors, moduleDepth "crate::a::b" < climbs path) := by
  have h_anchor : false = true ∨ 0 < 2 := by decide
  have h_rest : EndsSteps nestedAnchors := by decide +kernel
  refine ⟨h_anchor, h_rest, by decide +kernel, ?_⟩
  exact ((declaredType_anchored (bareResolver "crate::a::b") false 2 nestedAnchors h_anchor
    h_rest).1 (.inl rfl)).1

/-- `self::super::T` is spelled like `super::T`, but gets another identity, and in the crate root
    it is let through. -/
theorem declaredType_selfSuper_ne :
    parseType? "super::T" = some [.path (.anchored false 1 [.plain "T"])] ∧
    parseType? "self::super::T" = some [.path (.anchored true 1 [.plain "T"])] ∧
    (∀ fromSelf, ((bareResolver "crate::m").declaredType
          [.path (.anchored fromSelf 1 [.plain "T"])]).toOption.map
        (fun type => (type.spelled, type.core)) =
      some ("super::super::T", some ⟨if fromSelf then "crate::m::super::T" else "crate::T"⟩)) ∧
    ∀ fromSelf, ((bareResolver "crate").declaredType
          [.path (.anchored fromSelf 1 [.plain "T"])]).toOption.map (·.core) =
      if fromSelf then some (some ⟨"crate::super::T"⟩) else none := by
  refine ⟨?_, ?_, ?_, ?_⟩ <;> decide +kernel

end Resolver
end FieldDelta
