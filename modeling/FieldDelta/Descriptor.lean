import FieldDelta.Marker
import FieldDelta.Resolution

/-! # Descriptors of tracked types

A descriptor is what generation needs to know of one tracked type, detached from the syntax it
was read from.  Other tracked types are referred to by identity and never embedded, so models
may be cyclic.
-/

namespace FieldDelta

/-- How a model declares its fields. -/
inductive Shape where
  | named
  | tuple
  | unit
deriving DecidableEq, Repr

/-- The visibility of the generated items.  They live in a child of the model's module. -/
inductive DeltaVisibility where
  | everywhere
  | crate
  /-- Visible in the model's module only. -/
  | parent
deriving DecidableEq, Repr

def DeltaVisibility.text : DeltaVisibility → String
  | everywhere => "pub"
  | crate => "pub(crate)"
  | parent => "pub(super)"

/-- A reference from a property to a tracked type. -/
structure NestedReference where
  identity : TypeIdentity
  /-- The path of the delta type generated for it. -/
  deltaPath : String
deriving DecidableEq, Repr

/-- A property of a tracked type. -/
structure Property where
  /-- The segment that the property contributes to change paths. -/
  name : String
  /-- The field as it is accessed on the model. -/
  field : String
  /-- The slot and accessor in the delta type. -/
  member : String
  type : DeclaredType
  /-- The tracked type of the property, if it is compared field by field. -/
  nested : Option NestedReference := none
deriving DecidableEq, Repr

/-- What is known of a tracked type. -/
structure Descriptor where
  identity : TypeIdentity
  /-- The name of its delta type. -/
  generatedName : String
  config : TrackingConfig := {}
  visibility : DeltaVisibility := .everywhere
  shape : Shape := .named
  /-- The properties in declaration order. -/
  properties : List Property := []
  /-- The tracked types that properties refer to, in identity order. -/
  nestedReferences : List TypeIdentity := []
deriving DecidableEq, Repr

namespace Descriptor

def typeName (descriptor : Descriptor) : String :=
  descriptor.identity.name

def modulePath (descriptor : Descriptor) : String :=
  descriptor.identity.modulePath

/-- Whether any property is compared field by field. -/
def hasNested (descriptor : Descriptor) : Bool :=
  descriptor.properties.any (·.nested.isSome)

end Descriptor
end FieldDelta
