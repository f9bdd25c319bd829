import FieldDelta.Proofs.Resolution.Marks
import FieldDelta.Resolution

/-! # Raw identifiers in resolution

A raw identifier `r#a` is the name `a`.  Resolution takes the mark off the names in a type and
off the names that `use` items bind, but not off the paths that these names are bound to.

* `Resolver.pointsTo?_congr` — marks in a type make no difference, as long as the same wrapper is
  seen: `r#Option<T>` is none;
* `Resolver.pointsTo?_alike` — marks in the paths of imports reappear in the identities, and make
  no other difference;
* `Resolver.pointsTo?_upToMarks` — both together, and what becomes of a type behind an import.
-/

namespace FieldDelta

open Syntax Naming

/-! ## Local paths -/

/-- What stands behind a separator does not decide whether a path begins with `crate::`. -/
theorem isPrefixOf_crate (first rest rest' : List Char) :
    "crate::".toList.isPrefixOf (first ++ ':' :: ':' :: rest) =
      "crate::".toList.isPrefixOf (first ++ ':' :: ':' :: rest') := by
  match first with
  | [] => rfl
  | [_] => simp [List.isPrefixOf]
  | [_, _] => simp [List.isPrefixOf]
  | [_, _, _] => simp [List.isPrefixOf]
  | [_, _, _, _] => simp [List.isPrefixOf]
  | [_, _, _, _, _] => simp [List.isPrefixOf]
  | [_, _, _, _, _, _] => simp [List.isPrefixOf]
  | _ :: _ :: _ :: _ :: _ :: _ :: _ :: _ => simp [List.isPrefixOf]

namespace Resolver

/-- Marks behind the first segment do not move a path out of the crate. -/
theorem isLocal_congr {path other : String} (h_path : AlikePaths path other) :
    isLocal path = isLocal other := by
  obtain ⟨names, others, h_nonempty, ⟨h_head, h_map⟩, rfl, rfl⟩ := h_path
  match names, others, h_head, h_map with
  | [first], [first'], h_head, _ => rw [Option.some.inj h_head]
  | first :: next :: rest, first' :: next' :: rest', h_head, _ =>
    obtain rfl : first = first' := Option.some.inj h_head
    have h_ne (next : String) (rest : List String) :
        (Text.joinSegments (first :: next :: rest) == "crate") = false := by
      rw [beq_eq_false_iff_ne]
      intro h_eq
      have h_colon : ':' ∈ "crate".toList := by
        rw [← h_eq, Text.toList_joinSegments_cons]
        simp
      exact absurd h_colon (by decide)
    rw [isLocal, isLocal, h_ne, h_ne, Text.toList_joinSegments_cons,
      Text.toList_joinSegments_cons, isPrefixOf_crate]

end Resolver

/-! ## Types -/

/-- The type that is the only generic argument at the end of a path. -/
def argument? : Phrase → Option Phrase
  | [.path path] =>
    match path.segments.getLast? with
    | some (.mk _ (.angle _ [.mk .type argument] _)) => some argument
    | _ => none
  | _ => none

/-- What stands inside a wrapper. -/
def Wrapper.inside? : Wrapper → Phrase → Option Phrase
  | .plain, type => some type
  | .optional, type => argument? type
  | .boxed, type => argument? type
  | .optionalBoxed, type => (argument? type).bind argument?

/-- The path that a type consists of. -/
def corePath? : Phrase → Option Path
  | [.path path] => some path
  | _ => none

theorem argument?_of_singleArgument? {home name : String} {type argument : Phrase}
    (h_argument : singleArgument? home name type = some argument) :
    argument? type = some argument := by
  unfold singleArgument? at h_argument
  split at h_argument
  next path =>
    simp only [Option.ite_none_right_eq_some] at h_argument
    exact h_argument.2
  next => cases h_argument

theorem inside?_unwrap (type : Phrase) :
    (unwrap type).1.inside? type = some (unwrap type).2 := by
  unfold unwrap
  cases h_option : optionArgument? type with
  | some inner =>
    have h_inner := argument?_of_singleArgument? h_option
    cases h_box : boxArgument? inner with
    | some core => simp [Wrapper.inside?, h_box, h_inner, argument?_of_singleArgument? h_box]
    | none => simp [Wrapper.inside?, h_box, h_inner]
  | none =>
    cases h_box : boxArgument? type with
    | some core => simp [Wrapper.inside?, argument?_of_singleArgument? h_box]
    | none => simp [Wrapper.inside?]

section Renamed

variable {rename : String → String}

theorem argument?_mapNames (type : Phrase) :
    argument? (Phrase.mapNames rename type) = (argument? type).map (Phrase.mapNames rename) := by
  rcases type with _ | ⟨fragment, _ | ⟨next, rest⟩⟩
  · rfl
  · cases fragment with
    | path path =>
      simp only [Phrase.mapNames, Fragment.mapNamesList, Fragment.mapNames, argument?,
        segments_mapNames, List.getLast?_map]
      rcases path.segments.getLast? with _ | ⟨name, arguments⟩
      · rfl
      cases arguments with
      | angle turbofish elements trailing =>
        rcases elements with _ | ⟨⟨kind, argument⟩, _ | ⟨⟨_, _⟩, _⟩⟩
        · rfl
        · cases kind <;> rfl
        · cases kind <;> rfl
      | _ => rfl
    | _ => rfl
  · cases fragment <;> rfl

theorem inside?_mapNames (wrapper : Wrapper) (type : Phrase) :
    wrapper.inside? (Phrase.mapNames rename type) =
      (wrapper.inside? type).map (Phrase.mapNames rename) := by
  cases wrapper with
  | plain => rfl
  | optional => exact argument?_mapNames type
  | boxed => exact argument?_mapNames type
  | optionalBoxed =>
    simp only [Wrapper.inside?, argument?_mapNames, Option.bind_map, Option.map_bind]
    congr 1
    funext inner
    exact argument?_mapNames inner

theorem corePath?_mapNames (core : Phrase) :
    corePath? (Phrase.mapNames rename core) = (corePath? core).map (Path.mapNames rename) := by
  rcases core with _ | ⟨fragment, _ | ⟨next, rest⟩⟩
  · rfl
  · cases fragment <;> rfl
  · cases fragment <;> rfl

/-- Types that are the same up to renaming have cores that are, inside the same wrapper. -/
theorem unwrap_renamed {type other : Phrase}
    (h_type : Phrase.mapNames rename type = Phrase.mapNames rename other)
    (h_wrapper : (unwrap type).1 = (unwrap other).1) :
    Phrase.mapNames rename (unwrap type).2 = Phrase.mapNames rename (unwrap other).2 := by
  refine Option.some.inj ?_
  calc some (Phrase.mapNames rename (unwrap type).2)
      = (unwrap type).1.inside? (Phrase.mapNames rename type) := by
        rw [inside?_mapNames, inside?_unwrap, Option.map_some]
    _ = (unwrap other).1.inside? (Phrase.mapNames rename other) := by rw [h_type, h_wrapper]
    _ = some (Phrase.mapNames rename (unwrap other).2) := by
        rw [inside?_mapNames, inside?_unwrap, Option.map_some]

end Renamed

/-! ## Climbing paths -/

theorem climbs_eq {path : Path} (h_leading : path.leading = false) :
    climbs path = (path.names.takeWhile (· == "super")).length := by
  obtain ⟨leading, segments⟩ := path
  obtain rfl : leading = false := h_leading
  rw [Path.names, List.takeWhile_map, List.length_map]
  rfl

theorem climbs_mapNames {path : Path} (h_names : AreIdentifiers path.names) :
    climbs (path.mapNames withoutRaw) = climbs path := by
  cases h_leading : path.leading with
  | true =>
    obtain ⟨leading, segments⟩ := path
    obtain rfl : leading = true := h_leading
    rfl
  | false =>
    rw [climbs_eq h_leading, climbs_eq (by rw [leading_mapNames, h_leading]), names_mapNames,
      length_takeWhile_super h_names]

/-- The paths of types that are the same up to marks climb alike. -/
theorem climbs_paths_congr {type other : Phrase}
    (h_type : Phrase.mapNames withoutRaw type = Phrase.mapNames withoutRaw other)
    (h_names : ∀ path ∈ type.paths, AreIdentifiers path.names)
    (h_others : ∀ path ∈ other.paths, AreIdentifiers path.names) :
    type.paths.map climbs = other.paths.map climbs := by
  have h_unmarked {type : Phrase} (h_names : ∀ path ∈ type.paths, AreIdentifiers path.names) :
      (Phrase.mapNames withoutRaw type).paths.map climbs = type.paths.map climbs := by
    rw [paths_mapNames, List.map_map]
    exact List.map_congr_left fun path h_path => climbs_mapNames (h_names path h_path)
  rw [← h_unmarked h_names, ← h_unmarked h_others, h_type]

namespace Resolver

/-! ## Marks of types -/

variable {resolver : Resolver}

/-- Where the core of a type points, for a type that names nothing above the crate root. -/
def pointsTo? (resolver : Resolver) (type : Phrase) : Option Resolved :=
  match resolver.declaredType type with
  | .ok declared => some { core := declared.core, globCandidates := declared.globCandidates }
  | .error _ => none

theorem resolveCore_eq (core : Phrase) :
    resolver.resolveCore core =
      match corePath? core with
      | some path => resolver.resolvePath path
      | none => .ok {} := by
  fun_cases corePath? core
  · rfl
  next h_core =>
    unfold resolveCore
    split
    next path => exact absurd rfl (h_core path)
    next => rfl

theorem pointsTo?_eq (type : Phrase) :
    resolver.pointsTo? type =
      if ∀ steps ∈ type.paths.map climbs, steps ≤ moduleDepth resolver.modulePath then
        (resolver.resolveCore (unwrap type).2).toOption
      else none := by
  have h_find : (∀ steps ∈ type.paths.map climbs, steps ≤ moduleDepth resolver.modulePath) ↔
      type.paths.find? (fun path => moduleDepth resolver.modulePath < climbs path) = none := by
    simp [List.find?_eq_none]
  unfold pointsTo?
  rw [declaredType_eq]
  unfold rehomeType
  simp only [h_find]
  cases type.paths.find? (fun path => moduleDepth resolver.modulePath < climbs path) with
  | some path => rfl
  | none => cases resolver.resolveCore (unwrap type).2 <;> rfl

theorem resolvePath_congr {path other : Path} (h_leading : path.leading = other.leading)
    (h_names : path.names.map withoutRaw = other.names.map withoutRaw) :
    resolver.resolvePath path = resolver.resolvePath other := by
  rw [resolvePath, resolvePath, h_leading, h_names]

theorem resolveCore_congr {core other : Phrase}
    (h_core : Phrase.mapNames withoutRaw core = Phrase.mapNames withoutRaw other) :
    resolver.resolveCore core = resolver.resolveCore other := by
  have h_path : (corePath? core).map (Path.mapNames withoutRaw) =
      (corePath? other).map (Path.mapNames withoutRaw) := by
    rw [← corePath?_mapNames, ← corePath?_mapNames, h_core]
  rw [resolveCore_eq, resolveCore_eq]
  generalize corePath? core = path? at h_path ⊢
  generalize corePath? other = other? at h_path ⊢
  cases path? <;> cases other? <;>
    simp only [Option.map_none, Option.map_some, reduceCtorEq, Option.some.injEq] at h_path
  case none.none => rfl
  case some.some path path' =>
    refine resolvePath_congr ?_ ?_
    · rw [← leading_mapNames path, h_path, leading_mapNames]
    · rw [← names_mapNames, h_path, names_mapNames]

/-- Marks in a type are of no importance if the same wrapper is seen. -/
theorem pointsTo?_congr {type other : Phrase}
    (h_type : Phrase.mapNames withoutRaw type = Phrase.mapNames withoutRaw other)
    (h_names : ∀ path ∈ type.paths, AreIdentifiers path.names)
    (h_others : ∀ path ∈ other.paths, AreIdentifiers path.names)
    (h_wrapper : (unwrap type).1 = (unwrap other).1) :
    resolver.pointsTo? type = resolver.pointsTo? other := by
  rw [pointsTo?_eq, pointsTo?_eq, climbs_paths_congr h_type h_names h_others,
    resolveCore_congr (unwrap_renamed h_type h_wrapper)]

end Resolver

/-! ## Marks of imports -/

def AlikeIdentities (identity other : TypeIdentity) : Prop :=
  AlikePaths identity.path other.path

/-- Identities that are the same up to marks. -/
structure Resolved.Alike (resolved other : Resolved) : Prop where
  core : Option.Rel AlikeIdentities resolved.core other.core
  globs : List.Forall₂ AlikeIdentities resolved.globCandidates other.globCandidates

theorem AlikePaths.declared {modulePath other : String} (h_module : AlikePaths modulePath other)
    (name : String) :
    AlikeIdentities (.declared modulePath name) (.declared other name) := by
  rw [AlikeIdentities, TypeIdentity.path_declared, TypeIdentity.path_declared]
  exact h_module.append [name]

namespace Resolver

variable (modulePath : String) (self : TypeIdentity) {scope other : Scope}

/-- Answers that are the same up to marks in the path that is found. -/
inductive AlikeAnswers : Except UnresolvablePath (Option (List String)) →
    Except UnresolvablePath (Option (List String)) → Prop where
  | error (unresolvable : UnresolvablePath) :
    AlikeAnswers (.error unresolvable) (.error unresolvable)
  | none : AlikeAnswers (.ok none) (.ok none)
  | some {path other : List String}
    (h_path : AlikePaths (Text.joinSegments path) (Text.joinSegments other)) :
    AlikeAnswers (.ok (some path)) (.ok (some other))

theorem absolute?_alike (h_scope : scope.Alike other) (first : String) (rest : List String) :
    AlikeAnswers (absolute? ⟨modulePath, self, scope⟩ first rest)
      (absolute? ⟨modulePath, self, other⟩ first rest) := by
  have h_refl (answer : Except UnresolvablePath (Option (List String))) :
      AlikeAnswers answer answer := by
    rcases answer with unresolvable | _ | path
    · exact .error unresolvable
    · exact .none
    · exact .some (.refl _)
  have h_binding := Scope.binding?_alike h_scope first
  unfold absolute?
  split
  · exact h_refl _
  · simp only
    generalize scope.binding? first = target? at h_binding ⊢
    generalize other.binding? first = other? at h_binding ⊢
    cases h_binding with
    | none => exact h_refl _
    | some h_target =>
      simp only [isLocal_congr h_target]
      split
      · exact .some (h_target.append rest)
      · exact .none

theorem globCandidates_alike (h_scope : scope.Alike other) (first : String) (rest : List String) :
    List.Forall₂ AlikeIdentities (globCandidates ⟨modulePath, self, scope⟩ first rest)
      (globCandidates ⟨modulePath, self, other⟩ first rest) := by
  have h_bound : (scope.binding? first).isNone = (other.binding? first).isNone := by
    have h_binding := Scope.binding?_alike h_scope first
    generalize scope.binding? first = target? at h_binding ⊢
    generalize other.binding? first = other? at h_binding ⊢
    cases h_binding <;> rfl
  unfold globCandidates
  simp only [h_bound]
  split
  · rw [List.forall₂_map_left_iff, List.forall₂_map_right_iff]
    exact h_scope.globs.imp fun _ _ h_glob => h_glob.declared first
  · exact .nil

theorem resolvePath_alike (h_scope : scope.Alike other) (path : Path) :
    Option.Rel Resolved.Alike (resolvePath ⟨modulePath, self, scope⟩ path).toOption
      (resolvePath ⟨modulePath, self, other⟩ path).toOption := by
  unfold resolvePath
  split
  · exact .some ⟨.none, .nil⟩
  split
  · exact .some ⟨.none, .nil⟩
  next first rest h_names =>
    split
    · split
      · exact .some ⟨.some (.refl _), .nil⟩
      · exact .some ⟨.none, .nil⟩
    · have h_absolute := absolute?_alike modulePath self h_scope first rest
      have h_globs := globCandidates_alike modulePath self h_scope first rest
      generalize absolute? ⟨modulePath, self, scope⟩ first rest = answer at h_absolute ⊢
      generalize absolute? ⟨modulePath, self, other⟩ first rest = answer' at h_absolute ⊢
      cases h_absolute with
      | error => exact .none
      | none => exact .some ⟨.none, .nil⟩
      | some h_path => exact .some ⟨.some h_path, h_globs⟩

/-- Marks in the paths of a scope are the only difference that they make. -/
theorem pointsTo?_alike (h_scope : scope.Alike other) (type : Phrase) :
    Option.Rel Resolved.Alike (pointsTo? ⟨modulePath, self, scope⟩ type)
      (pointsTo? ⟨modulePath, self, other⟩ type) := by
  rw [pointsTo?_eq, pointsTo?_eq]
  simp only
  split
  · rw [resolveCore_eq, resolveCore_eq]
    split
    next path _ => exact resolvePath_alike modulePath self h_scope path
    next => exact .some ⟨.none, .nil⟩
  · exact .none

end Resolver

/-! ## Imports and full paths -/

/-- The names, without marks, of the path that is the core of a type. -/
def coreNames? (type : Phrase) : Option (List String) :=
  match corePath? (unwrap type).2 with
  | some path => if path.leading then none else some (path.names.map withoutRaw)
  | none => none

/-- A path without the marks of its segments. -/
def unmarkedPath (path : String) : String :=
  Text.joinSegments ((Text.segments path).map withoutRaw)

theorem coreNames?_eq_some {type : Phrase} {names : List String}
    (h_names : coreNames? type = some names) :
    ∃ path, corePath? (unwrap type).2 = some path ∧ path.leading = false ∧
      path.names.map withoutRaw = names := by
  unfold coreNames? at h_names
  split at h_names
  next path h_path =>
    split at h_names
    · cases h_names
    next h_leading => exact ⟨path, h_path, by simpa using h_leading, Option.some.inj h_names⟩
  · cases h_names

theorem segments_of_isLocal {path : String} (h_local : Resolver.isLocal path) :
    ∃ rest, Text.segments path = "crate" :: rest := by
  rcases (Bool.or_eq_true _ _).mp h_local with h_root | h_below
  · obtain rfl := eq_of_beq h_root
    exact ⟨[], by decide⟩
  · obtain ⟨rest, h_rest⟩ := List.isPrefixOf_iff_prefix.mp h_below
    have h_path : path.toList = "crate".toList ++ ':' :: ':' :: rest := h_rest.symm
    rw [Text.segments, h_path, Text.splitSegments_append (by decide), List.map_cons]
    exact ⟨_, rfl⟩

/-- `type` is written behind a name that is bound to `target`, and `direct` is the same type,
    written from the crate root on. -/
structure Scope.Reaches (scope : Scope) (target : String) (rest : List String)
    (type direct : Phrase) : Prop where
  imported : ∃ first, coreNames? type = some (first :: rest) ∧ first ∉ pathKeywords ∧
    scope.binding? first = some target
  isLocal : Resolver.isLocal target
  direct : coreNames? direct = some ((Text.segments target).map withoutRaw ++ rest)

namespace Resolver

theorem core_of_coreNames {resolver : Resolver} {type : Phrase} {first : String}
    {rest path : List String} (h_names : coreNames? type = some (first :: rest))
    (h_first : first ≠ "Self") (h_path : resolver.absolute? first rest = .ok (some path))
    (h_climbs : ∀ path ∈ type.paths, climbs path ≤ moduleDepth resolver.modulePath) :
    (resolver.pointsTo? type).map Resolved.core = some (some ⟨Text.joinSegments path⟩) := by
  obtain ⟨core, h_core, h_leading, h_map⟩ := coreNames?_eq_some h_names
  rw [pointsTo?_eq, if_pos (List.forall_mem_map.mpr h_climbs), resolveCore_eq, h_core]
  simp [resolvePath, h_leading, h_map, h_first, h_path, Except.toOption]

variable {modulePath : String} {self : TypeIdentity} {scope : Scope} {type direct : Phrase}
  {target : String} {rest : List String}

theorem core_of_imported (h_reaches : scope.Reaches target rest type direct)
    (h_climbs : ∀ path ∈ type.paths, climbs path ≤ moduleDepth modulePath) :
    (pointsTo? ⟨modulePath, self, scope⟩ type).map Resolved.core =
      some (some ⟨Text.joinSegments (Text.segments target ++ rest)⟩) := by
  obtain ⟨first, h_names, h_first, h_target⟩ := h_reaches.imported
  have h_anchor : ¬ (first = "crate" ∨ first = "self" ∨ first = "super") := by
    rintro (rfl | rfl | rfl) <;> exact h_first (by decide)
  have h_self : first ≠ "Self" := by
    rintro rfl
    exact h_first (by decide)
  refine core_of_coreNames h_names h_self ?_ h_climbs
  simp [absolute?, h_anchor, h_target, h_reaches.isLocal]

theorem core_of_direct (h_reaches : scope.Reaches target rest type direct)
    (h_climbs : ∀ path ∈ direct.paths, climbs path ≤ moduleDepth modulePath) :
    (pointsTo? ⟨modulePath, self, scope⟩ direct).map Resolved.core =
      some (some ⟨Text.joinSegments ((Text.segments target).map withoutRaw ++ rest)⟩) := by
  have h_direct := h_reaches.direct
  obtain ⟨below, h_below⟩ := segments_of_isLocal h_reaches.isLocal
  rw [h_below, List.map_cons, List.cons_append] at h_direct ⊢
  exact core_of_coreNames h_direct (by decide) rfl h_climbs

/-! ## Resolution up to marks -/

/-- The resolver of a module, for its `use` items. -/
def ofItems (modulePath : String) (self : TypeIdentity) (items : List Item) : Resolver :=
  ⟨modulePath, self, Scope.ofItems modulePath items⟩

/-- Two modules and two types in them are the same up to the marks of their identifiers.

    * As long as the paths of the `use` items bear the same marks, the types point to the same
      identities: marks on aliases and in types make no difference.
    * As long as no `use` item begins with a marked external crate, other marks only reappear in
      the identities.
    * So a type behind an import points to the same identity as its full path exactly if the
      path that is bound bears no mark. -/
theorem pointsTo?_upToMarks (modulePath : String) (self : TypeIdentity) {items others : List Item}
    {type other : Phrase}
    (h_items : items.map (Item.mapImports withoutRaw withoutRaw) =
      others.map (Item.mapImports withoutRaw withoutRaw))
    (h_imports : ∀ imported ∈ items.flatMap Item.rooted, AreIdentifiers imported.identifiers)
    (h_imports' : ∀ imported ∈ others.flatMap Item.rooted, AreIdentifiers imported.identifiers)
    (h_type : Phrase.mapNames withoutRaw type = Phrase.mapNames withoutRaw other)
    (h_names : ∀ path ∈ type.paths, AreIdentifiers path.names)
    (h_names' : ∀ path ∈ other.paths, AreIdentifiers path.names)
    (h_wrapper : (unwrap type).1 = (unwrap other).1) :
    (items.map (Item.mapImports id withoutRaw) = others.map (Item.mapImports id withoutRaw) →
      (ofItems modulePath self items).pointsTo? type =
        (ofItems modulePath self others).pointsTo? other) ∧
    ((∀ imported ∈ items.flatMap Item.rooted ++ others.flatMap Item.rooted,
        RootUnmarked imported.identifiers) →
      Option.Rel Resolved.Alike ((ofItems modulePath self items).pointsTo? type)
        ((ofItems modulePath self others).pointsTo? other)) ∧
    ∀ target rest direct, (Scope.ofItems modulePath items).Reaches target rest type direct →
      (∀ path ∈ type.paths ++ direct.paths, climbs path ≤ moduleDepth modulePath) →
      ((ofItems modulePath self items).pointsTo? direct).map Resolved.core =
        some (some ⟨Text.joinSegments ((Text.segments target).map withoutRaw ++ rest)⟩) ∧
      (((ofItems modulePath self items).pointsTo? type).map Resolved.core =
          ((ofItems modulePath self items).pointsTo? direct).map Resolved.core ↔
        unmarkedPath target = target) := by
  have h_types {resolver : Resolver} : resolver.pointsTo? type = resolver.pointsTo? other :=
    pointsTo?_congr h_type h_names h_names' h_wrapper
  refine ⟨fun h_paths => ?_, fun h_roots => ?_, ?_⟩
  · rw [h_types, ofItems, ofItems, Scope.ofItems_congr h_paths h_imports h_imports']
  · rw [h_types]
    refine pointsTo?_alike modulePath self (Scope.ofItems_alike h_items ?_ ?_) other
    · intro imported h_imported
      exact ⟨h_imports _ h_imported, h_roots _ (List.mem_append_left _ h_imported)⟩
    · intro imported h_imported
      exact ⟨h_imports' _ h_imported, h_roots _ (List.mem_append_right _ h_imported)⟩
  · intro target rest direct h_reaches h_climbs
    obtain ⟨h_climbs, h_climbs'⟩ := List.forall_mem_append.mp h_climbs
    have h_target := Text.segments_ne_nil target
    rw [ofItems, core_of_imported h_reaches h_climbs, core_of_direct h_reaches h_climbs']
    refine ⟨rfl, ?_⟩
    rw [Option.some.injEq, Option.some.injEq, TypeIdentity.mk.injEq,
      joinSegments_append_inj h_target (by simpa using h_target), Text.joinSegments_segments]
    exact eq_comm

/-- `use crate::a::T as r#U;` -/
def rawAliasItem : Item :=
  .use false (.path "crate" (.path "a" (.rename "T" "r#U")))

/-- `use crate::a::T as U;` -/
def aliasItem : Item :=
  .use false (.path "crate" (.path "a" (.rename "T" "U")))

/-- `Option<path>`. -/
def optionOf (names : List String) : Phrase :=
  [.path (.mk false [.mk "Option" (.angle false [.mk .type [.path (.ofNames names)]] false)])]

def owner : TypeIdentity :=
  ⟨"crate::m::Owner"⟩

theorem pointsTo?_upToMarks_rawAliasItem :
    (ofItems "crate::m" owner [rawAliasItem]).pointsTo? (optionOf ["U"]) =
      (ofItems "crate::m" owner [aliasItem]).pointsTo? (optionOf ["r#U"]) ∧
    Option.Rel Resolved.Alike ((ofItems "crate::m" owner [rawAliasItem]).pointsTo? (optionOf ["U"]))
      ((ofItems "crate::m" owner [aliasItem]).pointsTo? (optionOf ["r#U"])) ∧
    ((ofItems "crate::m" owner [rawAliasItem]).pointsTo? (optionOf ["U"])).map Resolved.core =
      ((ofItems "crate::m" owner [rawAliasItem]).pointsTo?
        (optionOf ["crate", "a", "T"])).map Resolved.core := by
  have h_items : [rawAliasItem].map (Item.mapImports withoutRaw withoutRaw) =
      [aliasItem].map (Item.mapImports withoutRaw withoutRaw) := rfl
  have h_type : Phrase.mapNames withoutRaw (optionOf ["U"]) =
      Phrase.mapNames withoutRaw (optionOf ["r#U"]) := rfl
  have h_reaches : (Scope.ofItems "crate::m" [rawAliasItem]).Reaches "crate::a::T" []
      (optionOf ["U"]) (optionOf ["crate", "a", "T"]) :=
    { imported := ⟨"U", by decide +kernel, by decide, by decide +kernel⟩
      isLocal := by decide
      direct := by decide +kernel }
  obtain ⟨h_same, h_alike, h_import⟩ := pointsTo?_upToMarks "crate::m" owner h_items
    (by decide +kernel) (by decide +kernel) h_type (by decide +kernel) (by decide +kernel)
    (by decide +kernel)
  refine ⟨h_same rfl, h_alike (by decide +kernel), ?_⟩
  exact (h_import _ _ _ h_reaches (by decide +kernel)).2.mpr (by decide +kernel)

/-- `use crate::r#a::T;` -/
def rawModuleItem : Item :=
  .use false (.path "crate" (.path "r#a" (.name "T")))

/-- `use crate::a::T;` -/
def moduleItem : Item :=
  .use false (.path "crate" (.path "a" (.name "T")))

/-- A mark in the path of an import reappears in the identity, and is not in the full path. -/
theorem pointsTo?_ne_rawModuleItem :
    [rawModuleItem].map (Item.mapImports withoutRaw withoutRaw) =
      [moduleItem].map (Item.mapImports withoutRaw withoutRaw) ∧
    (ofItems "crate::m" owner [rawModuleItem]).pointsTo? [.path (.ofNames ["T"])] ≠
      (ofItems "crate::m" owner [moduleItem]).pointsTo? [.path (.ofNames ["T"])] ∧
    (ofItems "crate::m" owner [rawModuleItem]).pointsTo? [.path (.ofNames ["T"])] ≠
      (ofItems "crate::m" owner [rawModuleItem]).pointsTo?
        [.path (.ofNames ["crate", "r#a", "T"])] := by
  refine ⟨rfl, ?_, ?_⟩ <;> decide +kernel

end Resolver

end FieldDelta
