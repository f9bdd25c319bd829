import FieldDelta.Model.Schema

/-! # Deltas of single properties

* `ErasedValue` — a value together with its type, so that values of different properties can
  stand in one list.
* `PropertyDelta` — the two sides of one property, and whether they differ.
* `PropertyChange` — a change as it is listed: where it is, and the two values.
* `DeltaInfo` — a change with the declared type of its property.

Changes of nested properties are listed under the path of the property that leads to them:
`withPrefix` puts one more segment in front.
-/

namespace FieldDelta

/-! ## Erased values -/

/-- A value and the type that it was declared with. -/
structure ErasedValue (M : Type) where
  type : ValueType M
  value : Value M
deriving Repr

namespace ErasedValue

variable {M : Type}

def same [DecidableEq M] (a b : ErasedValue M) : Bool :=
  decide (a.type = b.type) && a.value.same b.value

def as? [DecidableEq M] (erased : ErasedValue M) (type : ValueType M) : Option (Value M) :=
  if erased.type = type then some erased.value else none

def print [Catalogue M] (erased : ErasedValue M) : String :=
  erased.value.print

end ErasedValue

/-! ## Listed changes -/

def extendPath (front path : String) : String :=
  front ++ "." ++ path

/-- A property that has changed, by its path from the compared model. -/
structure PropertyChange (M : Type) where
  path : String
  previous : ErasedValue M
  current : ErasedValue M
deriving Repr

namespace PropertyChange

variable {M : Type}

/-- The change as seen from the model that holds the compared one in `front`. -/
def withPrefix (front : String) (change : PropertyChange M) : PropertyChange M :=
  { change with path := extendPath front change.path }

def same [DecidableEq M] (a b : PropertyChange M) : Bool :=
  a.path == b.path && a.previous.same b.previous && a.current.same b.current

def print [Catalogue M] (change : PropertyChange M) : String :=
  change.path ++ ": " ++ change.previous.print ++ " -> " ++ change.current.print

end PropertyChange

/-- A property that has changed, with its declared type.  A nested property may be one entry. -/
structure DeltaInfo (M : Type) where
  path : String
  previous : ErasedValue M
  current : ErasedValue M
  declaredType : ValueType M
deriving Repr

namespace DeltaInfo

variable {M : Type}

/-- The entry as seen from the model that holds the compared one in `front`. -/
def withPrefix (front : String) (info : DeltaInfo M) : DeltaInfo M :=
  { info with path := extendPath front info.path }

/-- Whether two entries have one path, equal values and one declared type. -/
def same [DecidableEq M] (a b : DeltaInfo M) : Bool :=
  a.path == b.path && a.previous.same b.previous && a.current.same b.current &&
    decide (a.declaredType = b.declaredType)

/-- Whether two listings have the same entries in one order. -/
def sameAll [DecidableEq M] : List (DeltaInfo M) → List (DeltaInfo M) → Bool
  | [], [] => true
  | a :: as, b :: bs => a.same b && sameAll as bs
  | _, _ => false

def print [Catalogue M] (info : DeltaInfo M) : String :=
  info.path ++ " (" ++ info.declaredType.name ++ "): " ++ info.previous.print ++ " -> " ++
    info.current.print

end DeltaInfo

/-! ## Property deltas -/

/-- Something that tells whether it holds a difference. -/
class HasDelta (D : Type) where
  hasDelta : D → Bool

/-- The two sides of a property of the given type. -/
structure PropertyDelta (M : Type) where
  type : ValueType M
  previous : Value M
  current : Value M
  /-- Whether the sides differ; settled when the delta is made. -/
  hasChanged : Bool
deriving Repr

namespace PropertyDelta

variable {M : Type}

def between [DecidableEq M] (type : ValueType M) (previous current : Value M) :
    PropertyDelta M where
  type := type
  previous := previous
  current := current
  hasChanged := !previous.same current

/-- The sides as a change at `path`. -/
def toChange (delta : PropertyDelta M) (path : String) : PropertyChange M where
  path := path
  previous := ⟨delta.type, delta.previous⟩
  current := ⟨delta.type, delta.current⟩

/-- The sides as an entry at `path`. -/
def toDeltaInfo (delta : PropertyDelta M) (path : String) : DeltaInfo M where
  path := path
  previous := ⟨delta.type, delta.previous⟩
  current := ⟨delta.type, delta.current⟩
  declaredType := delta.type

/-- Whether two deltas have equal sides and agree that they differ. -/
def same [DecidableEq M] (a b : PropertyDelta M) : Bool :=
  a.previous.same b.previous && a.current.same b.current && a.hasChanged == b.hasChanged

def print [Catalogue M] (delta : PropertyDelta M) : String :=
  "PropertyDelta \x7b previous: " ++ delta.previous.print ++ ", current: " ++
    delta.current.print ++ ", has_changed: " ++ (if delta.hasChanged then "true" else "false") ++
    " \x7d"

instance : HasDelta (PropertyDelta M) where
  hasDelta := hasChanged

end PropertyDelta
end FieldDelta
