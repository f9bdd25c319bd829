import FieldDelta.Text.Segments

/-! # Type identities

The identity of a declared type is the path at which it is reachable from the crate root, such
as `crate::models::User`.  It is the key of the descriptor graph.  Identities are ordered by
their text, code point by code point.
-/

namespace FieldDelta

/-- Module-qualified identity of a declared type. -/
structure TypeIdentity where
  path : String
deriving DecidableEq, Repr

namespace TypeIdentity

/-- Identity of `name` declared in the module `modulePath`. -/
def declared (modulePath name : String) : TypeIdentity :=
  ⟨modulePath ++ "::" ++ name⟩

theorem path_declared (modulePath name : String) : (declared modulePath name).path =
    Text.joinSegments (Text.segments modulePath ++ [name]) := by
  rw [Text.joinSegments_concat (Text.segments_ne_nil _), Text.joinSegments_segments]
  rfl

/-- The last segment of the path: the type's own name. -/
def name (identity : TypeIdentity) : String :=
  match Text.splitLast? identity.path.toList with
  | some (_, name) => String.ofList name
  | none => identity.path

theorem name_declared {name : String} (h_name : ':' ∉ name.toList) (modulePath : String) :
    (declared modulePath name).name = name := by
  have h_path : (declared modulePath name).path.toList =
      modulePath.toList ++ ':' :: ':' :: name.toList := by
    simp [declared]
  rw [TypeIdentity.name, h_path, Text.splitLast?_append h_name]
  exact String.ofList_toList

/-- Everything before the last segment; empty for a path of one segment. -/
def modulePath (identity : TypeIdentity) : String :=
  match Text.splitLast? identity.path.toList with
  | some (modulePath, _) => String.ofList modulePath
  | none => ""

/-- Identities in rising order of their paths. -/
def sort (identities : List TypeIdentity) : List TypeIdentity :=
  identities.mergeSort fun a b => decide (a.path ≤ b.path)

end TypeIdentity
end FieldDelta
