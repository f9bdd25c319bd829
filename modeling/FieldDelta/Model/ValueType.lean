import FieldDelta.Resolution

/-! # Types of values

The types that fields of a model may have.  Models are named by keys of a type `M`, so a model
may hold values of its own type behind an option or a list.

* `ValueType.nested?` — the model that a property is compared through, and the wrapper around
  it;
* `ValueType.nameWith` — the full name of a type.
-/

namespace FieldDelta

/-- The kinds of whole numbers: signed and unsigned ones of several widths. -/
inductive IntegerKind where
  | i8
  | u8
  | u16
  | i32
  | u32
  | i64
  | u64
  | i128
deriving DecidableEq, Repr

namespace IntegerKind

def text : IntegerKind → String
  | i8 => "i8"
  | u8 => "u8"
  | u16 => "u16"
  | i32 => "i32"
  | u32 => "u32"
  | i64 => "i64"
  | u64 => "u64"
  | i128 => "i128"

def isSigned : IntegerKind → Bool
  | i8 | i32 | i64 | i128 => true
  | u8 | u16 | u32 | u64 => false

def width : IntegerKind → Nat
  | i8 | u8 => 8
  | u16 => 16
  | i32 | u32 => 32
  | i64 | u64 => 64
  | i128 => 128

/-- The first number that is too great for the kind. -/
def limit (kind : IntegerKind) : Nat :=
  Nat.pow 2 (if kind.isSigned then kind.width - 1 else kind.width)

def holds (kind : IntegerKind) : Int → Bool
  | .ofNat n => decide (n < kind.limit)
  | .negSucc n => kind.isSigned && decide (n < kind.limit)

end IntegerKind

/-- A type of values; `M` holds the keys of the models. -/
inductive ValueType (M : Type) where
  | integer (kind : IntegerKind)
  | float
  | bool
  | char
  | text
  /-- A text that several owners share. -/
  | sharedText
  | unit
  | option (type : ValueType M)
  | list (type : ValueType M)
  | box (type : ValueType M)
  /-- A place whose contents may change while it is shared. -/
  | cell (type : ValueType M)
  | pair (first second : ValueType M)
  | model (key : M)
deriving DecidableEq, Repr

namespace ValueType

variable {M : Type}

/-- The model behind the wrappers that a nested comparison looks through. -/
def nested? : ValueType M → Option (Wrapper × M)
  | .model key => some (.plain, key)
  | .option (.model key) => some (.optional, key)
  | .box (.model key) => some (.boxed, key)
  | .option (.box (.model key)) => some (.optionalBoxed, key)
  | _ => none

/-- The full name of a type; `modelName` gives those of the models. -/
def nameWith (modelName : M → String) : ValueType M → String
  | .integer kind => kind.text
  | .float => "f64"
  | .bool => "bool"
  | .char => "char"
  | .text => "alloc::string::String"
  | .sharedText => "alloc::rc::Rc<str>"
  | .unit => "()"
  | .option type => "core::option::Option<" ++ type.nameWith modelName ++ ">"
  | .list type => "alloc::vec::Vec<" ++ type.nameWith modelName ++ ">"
  | .box type => "alloc::boxed::Box<" ++ type.nameWith modelName ++ ">"
  | .cell type => "core::cell::Cell<" ++ type.nameWith modelName ++ ">"
  | .pair first second =>
    "(" ++ first.nameWith modelName ++ ", " ++ second.nameWith modelName ++ ")"
  | .model key => modelName key

end ValueType
end FieldDelta
