import FieldDelta.Delta.Property
import FieldDelta.Model.Samples
import Mathlib.Data.List.Nodup

/-! # Change paths

A change path holds the names of the properties that lead to a change, with dots between them.
Where names have no dots of their own, the names can be read back from the path:

* `pathSegments_extendPath` — a path with a name in front;
* `pathSegments_inj` — paths through the same names are equal.
-/

namespace FieldDelta

/-! ## The names on a path -/

/-- The names that a change path goes through. -/
def pathSegments (path : String) : List String :=
  (path.toList.splitOn '.').map String.ofList

theorem pathSegments_ne_nil (path : String) : pathSegments path ≠ [] := by
  simp [pathSegments]

/-- The first name of a change path. -/
def firstSegment (path : String) : String :=
  (pathSegments path).head (pathSegments_ne_nil path)

theorem pathSegments_inj {p q : String} (h_segments : pathSegments p = pathSegments q) : p = q := by
  have h_split : p.toList.splitOn '.' = q.toList.splitOn '.' :=
    (List.map_injective_iff.mpr fun _ _ => String.ofList_injective) h_segments
  have h_join (list : List Char) : ['.'].intercalate (list.splitOn '.') = list :=
    List.intercalate_splitOn '.'
  -- Joining the segments again gives the path back.
  have h_list : p.toList = q.toList := by
    rw [← h_join p.toList, h_split, h_join]
  exact String.toList_inj.mp h_list

/-- A name without a dot. -/
def IsPlainName (name : String) : Prop :=
  '.' ∉ name.toList

instance (name : String) : Decidable (IsPlainName name) :=
  inferInstanceAs (Decidable (¬ _))

theorem pathSegments_of_isPlainName {name : String} (h_plain : IsPlainName name) :
    pathSegments name = [name] := by
  rw [pathSegments, List.splitOn_eq_singleton h_plain]
  simp

theorem pathSegments_extendPath {name : String} (h_plain : IsPlainName name) (path : String) :
    pathSegments (extendPath name path) = name :: pathSegments path := by
  have h_list : (extendPath name path).toList = name.toList ++ '.' :: path.toList := by
    simp [extendPath]
  rw [pathSegments, h_list, List.splitOn_append_cons_self_of_not_mem h_plain]
  simp [pathSegments]

/-! ## The names of properties -/

/-- A catalogue whose properties can be told apart on change paths. -/
class WellNamed (M : Type) [Catalogue M] : Prop where
  names_nodup : ∀ model : M, ((Catalogue.schema model).properties.map (·.name)).Nodup
  name_plain : ∀ model : M, ∀ property ∈ (Catalogue.schema model).properties,
    IsPlainName property.name

instance : WellNamed SampleModel where
  names_nodup model := by cases model <;> decide
  name_plain model := by cases model <;> decide

variable {M : Type} [Catalogue M]

/-- The property of a model that has a name. -/
def property? (model : M) (name : String) : Option (ModelProperty M) :=
  (Catalogue.schema model).properties.find? (·.name == name)

theorem property?_eq_some [WellNamed M] {model : M} {name : String} {property : ModelProperty M} :
    property? model name = some property ↔
      property ∈ (Catalogue.schema model).properties ∧ property.name = name := by
  constructor
  · intro h_find
    exact ⟨List.mem_of_find?_eq_some h_find, by simpa using List.find?_some h_find⟩
  · rintro ⟨h_property, rfl⟩
    cases h_find : property? model property.name with
    | none =>
      have h_none := List.find?_eq_none.mp h_find property h_property
      simp at h_none
    | some other =>
      -- The first property of that name is the only one.
      have h_name : other.name = property.name := by simpa using List.find?_some h_find
      rw [List.inj_on_of_nodup_map (WellNamed.names_nodup model)
        (List.mem_of_find?_eq_some h_find) h_property h_name]

end FieldDelta
