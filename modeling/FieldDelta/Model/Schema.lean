import FieldDelta.Decimal.Notation
import FieldDelta.Description
import FieldDelta.Model.Value
import FieldDelta.Text.Quoted

/-! # Schemas of models

A schema says what a model declares: its fields in order, which of them are tracked, and
whether models inside it are compared field by field.  A catalogue gives every model key its
schema and the values that its fields have at first, which stand in where a side of a
comparison is missing.

* `Schema.properties` — the tracked fields as properties of the delta;
* `ValueType.initial` — the value of a type that stands for a missing one;
* `Value.print` — a value as it appears in change listings.
-/

namespace FieldDelta

/-- A field of a model. -/
structure ModelField (M : Type) where
  /-- The identifier, with `r#` where it is written so; the index in a tuple. -/
  identifier : String
  type : ValueType M
  /-- Whether changes of the field are reported. -/
  tracked : Bool := true
deriving DecidableEq, Repr

/-- The declaration of a model. -/
structure Schema (M : Type) where
  modulePath : String
  name : String
  fields : List (ModelField M)
  shape : Shape := .named
  /-- Whether models in fields are compared field by field. -/
  deepTracking : Bool := true
deriving DecidableEq, Repr

/-- A family of models that may refer to one another. -/
class Catalogue (M : Type) where
  schema : M → Schema M
  /-- The values that the fields of a new model have. -/
  initialFields : M → List (Value M)

/-- A property of a model: a field that is tracked. -/
structure ModelProperty (M : Type) where
  /-- The place of the field among all fields. -/
  index : Nat
  /-- The segment that the property contributes to change paths. -/
  name : String
  /-- The accessor in the delta. -/
  member : String
  type : ValueType M
  /-- The model that the property is compared through, and the wrapper around it. -/
  nested : Option (Wrapper × M)
deriving DecidableEq, Repr

namespace Schema

variable {M : Type}

/-- The full name of a model. -/
def path (schema : Schema M) : String :=
  schema.modulePath ++ "::" ++ schema.name

def property (schema : Schema M) (field : ModelField M) (index : Nat) : ModelProperty M where
  index := index
  name := Naming.pathSegment field.identifier
  member := (accessor field.identifier).1
  type := field.type
  nested := if schema.deepTracking then field.type.nested? else none

/-- The properties in declaration order. -/
def properties (schema : Schema M) : List (ModelProperty M) :=
  (schema.fields.zipIdx.filter (·.1.tracked)).map fun (field, index) =>
    schema.property field index

/-- A value of the model in writing; `parts` are its fields in writing. -/
def print (schema : Schema M) (parts : List String) : String :=
  match schema.shape, parts with
  | _, [] | .unit, _ => schema.name
  | .tuple, _ => schema.name ++ "(" ++ ", ".intercalate parts ++ ")"
  | .named, _ =>
    let entry (field : ModelField M) (part : String) : String :=
      Naming.pathSegment field.identifier ++ ": " ++ part
    schema.name ++ " \x7b " ++ ", ".intercalate (List.zipWith entry schema.fields parts) ++ " \x7d"

end Schema

section Catalogued

variable {M : Type} [Catalogue M]

def ValueType.name (type : ValueType M) : String :=
  type.nameWith fun key => (Catalogue.schema key).path

/-- The value of a type that stands for a missing one. -/
def ValueType.initial : ValueType M → Value M
  | .integer _ => .integer 0
  | .float => .float (.zero false)
  | .bool => .bool false
  | .char => .char '\x00'
  | .text | .sharedText => .text ""
  | .unit => .unit
  | .option _ => .absent
  | .list _ => .list []
  | .box type => .boxed type.initial
  | .cell type => .cell type.initial
  | .pair first second => .pair first.initial second.initial
  | .model key => .record key (Catalogue.initialFields key)

mutual

def Value.print : Value M → String
  | .integer n => toString n
  | .float x => x.text
  | .bool b => if b then "true" else "false"
  | .char c => Text.quoteChar c
  | .text s => Text.quote s
  | .unit => "()"
  | .absent => "None"
  | .present value => "Some(" ++ value.print ++ ")"
  | .list items => "[" ++ ", ".intercalate (Value.printAll items) ++ "]"
  | .boxed value => value.print
  | .cell value => "Cell \x7b value: " ++ value.print ++ " \x7d"
  | .pair first second => "(" ++ first.print ++ ", " ++ second.print ++ ")"
  | .record key fields => (Catalogue.schema key).print (Value.printAll fields)

def Value.printAll : List (Value M) → List String
  | [] => []
  | value :: values => value.print :: Value.printAll values

end

end Catalogued
end FieldDelta
