import FieldDelta.Identity
import FieldDelta.Rehoming
import FieldDelta.Scope

/-! # Resolution of property types

Resolution is syntactic: the path of a type is mapped to the identity that it would name if that
were a tracked type of the crate.  Nothing checks that such a type exists.

* `unwrap` — the wrapper around a type, and the type inside it;
* `Resolver.resolvePath` — the identity that a path names;
* `Resolver.declaredType` — all that is known of the type of a property.
-/

namespace FieldDelta

open Syntax

/-! ## Wrappers -/

/-- The wrapper around the core type of a property. -/
inductive Wrapper where
  /-- `T`. -/
  | plain
  /-- `Option<T>`. -/
  | optional
  /-- `Box<T>`. -/
  | boxed
  /-- `Option<Box<T>>`. -/
  | optionalBoxed
deriving DecidableEq, Repr

/-- The crates through which the wrappers may be named. -/
def wrapperRoots : List String :=
  ["std", "core", "alloc"]

/-- The type inside `name<T>`, where `name` stands alone or behind `std`, `core` or `alloc` and
    the module `home`. -/
def singleArgument? (home name : String) : Phrase → Option Phrase
  | [.path path] =>
    let named := match path.names with
      | [only] => only == name
      | [root, middle, last] => wrapperRoots.contains root && middle == home && last == name
      | _ => false
    if named then
      match path.segments.getLast? with
      | some (.mk _ (.angle _ [.mk .type argument] _)) => some argument
      | _ => none
    else none
  | _ => none

/-- The type inside `Option<T>`. -/
def optionArgument? : Phrase → Option Phrase :=
  singleArgument? "option" "Option"

/-- The type inside `Box<T>`. -/
def boxArgument? : Phrase → Option Phrase :=
  singleArgument? "boxed" "Box"

/-- The wrapper around a type and the type inside it.  Only `Option<T>`, `Box<T>` and
    `Option<Box<T>>` are looked through. -/
def unwrap (type : Phrase) : Wrapper × Phrase :=
  match optionArgument? type with
  | some inner =>
    match boxArgument? inner with
    | some core => (.optionalBoxed, core)
    | none => (.optional, inner)
  | none =>
    match boxArgument? type with
    | some core => (.boxed, core)
    | none => (.plain, type)

/-! ## Paths -/

/-- Names of the prelude and of primitive types, which a bare name refers to. -/
def preludeTypes : List String :=
  ["bool", "char", "str", "u8", "u16", "u32", "u64", "u128", "usize", "i8", "i16", "i32", "i64",
   "i128", "isize", "f32", "f64", "String", "Vec", "Option", "Box", "Result"]

/-- Where the path of a type points. -/
structure Resolved where
  core : Option TypeIdentity := none
  /-- What the path may name through glob imports, in import order. -/
  globCandidates : List TypeIdentity := []
deriving DecidableEq, Repr

/-- What is needed to resolve the paths written inside a type declaration. -/
structure Resolver where
  modulePath : String
  /-- The type that `Self` names. -/
  self : TypeIdentity
  scope : Scope

namespace Resolver

/-- Whether a bound path lies in the crate. -/
def isLocal (path : String) : Bool :=
  path == "crate" || "crate::".toList.isPrefixOf path.toList

/-- The segments, from the crate root on, that a path names, or `none` for a path that leaves the
    crate.  The path has the segments `first :: rest`. -/
def absolute? (resolver : Resolver) (first : String) (rest : List String) :
    Except UnresolvablePath (Option (List String)) :=
  if first = "crate" ∨ first = "self" ∨ first = "super" then
    match absolutize resolver.modulePath (first :: rest) with
    | some path => .ok (some path)
    | none => .error ⟨Text.joinSegments (first :: rest)⟩
  else
    match resolver.scope.binding? first with
    | some target => .ok (if isLocal target then some (Text.segments target ++ rest) else none)
    | none =>
      if externalRoots.contains first || (rest.isEmpty && preludeTypes.contains first) then
        .ok none
      else .ok (some (Text.segments resolver.modulePath ++ first :: rest))

/-- The identities that a bare name may have through glob imports. -/
def globCandidates (resolver : Resolver) (first : String) (rest : List String) :
    List TypeIdentity :=
  if rest.isEmpty && (resolver.scope.binding? first).isNone then
    resolver.scope.globs.map (TypeIdentity.declared · first)
  else []

/-- The identity that a path names, if it is one of the crate.  `Self` alone names the owner;
    associated types name nothing. -/
def resolvePath (resolver : Resolver) (path : Path) : Except UnresolvablePath Resolved :=
  if path.leading then .ok {}
  else
    match path.names.map Naming.withoutRaw with
    | [] => .ok {}
    | first :: rest =>
      if first = "Self" then .ok { core := if rest.isEmpty then some resolver.self else none }
      else
        match resolver.absolute? first rest with
        | .error unresolvable => .error unresolvable
        | .ok none => .ok {}
        | .ok (some path) =>
          .ok { core := some ⟨Text.joinSegments path⟩
                globCandidates := resolver.globCandidates first rest }

end Resolver

/-! ## Declared types -/

/-- The declared type of a property. -/
structure DeclaredType where
  /-- Its text, valid inside the generated module. -/
  spelled : String
  wrapper : Wrapper := .plain
  /-- The identity of the core type, if that is a path of the crate. -/
  core : Option TypeIdentity := none
  /-- What the core type may name through glob imports; asked only when `core` is not tracked. -/
  globCandidates : List TypeIdentity := []
deriving DecidableEq, Repr

/-- Every identity that the core type may have, the most specific one first. -/
def DeclaredType.candidates (type : DeclaredType) : List TypeIdentity :=
  type.core.toList ++ type.globCandidates

namespace Resolver

/-- Where the core of a type points.  Only plain paths point anywhere. -/
def resolveCore (resolver : Resolver) : Phrase → Except UnresolvablePath Resolved
  | [.path path] => resolver.resolvePath path
  | _ => .ok {}

/-- The declared type of a property that is written as `type`. -/
def declaredType (resolver : Resolver) (type : Phrase) :
    Except UnresolvablePath DeclaredType := do
  let rehomed ← rehomeType type resolver.self.name (Naming.moduleDepth resolver.modulePath)
  let (wrapper, core) := unwrap type
  let resolved ← resolver.resolveCore core
  return { spelled := spellType rehomed
           wrapper := wrapper
           core := resolved.core
           globCandidates := resolved.globCandidates }

theorem declaredType_eq (resolver : Resolver) (type : Phrase) :
    resolver.declaredType type =
      match rehomeType type resolver.self.name (Naming.moduleDepth resolver.modulePath) with
      | .error unresolvable => .error unresolvable
      | .ok rehomed =>
        (resolver.resolveCore (unwrap type).2).map fun resolved =>
          { spelled := spellType rehomed
            wrapper := (unwrap type).1
            core := resolved.core
            globCandidates := resolved.globCandidates } := by
  unfold declaredType
  obtain ⟨wrapper, core⟩ := unwrap type
  cases rehomeType type resolver.self.name (Naming.moduleDepth resolver.modulePath) with
  | error unresolvable => rfl
  | ok rehomed =>
    simp only
    cases resolver.resolveCore core <;> rfl

end Resolver
end FieldDelta
