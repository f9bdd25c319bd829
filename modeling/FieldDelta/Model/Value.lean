import FieldDelta.Decimal.Binary64
import FieldDelta.Model.ValueType

/-! # Values

A value says which of the forms it has and nothing of its width or sharing, which its type
tells.  The fields of a model's value stand in the order of their declaration.

* `same` — the equality that decides whether a property has changed; it is that of numbers
  where values hold numbers of double precision, so a value need not equal itself;
* `Wrapper.project` — the model value behind a wrapper, if one is there;
* `field?` — a field of a model's value.
-/

namespace FieldDelta

/-- A value of a field. -/
inductive Value (M : Type) where
  | integer (n : Int)
  | float (x : Binary64)
  | bool (b : Bool)
  | char (c : Char)
  | text (s : String)
  | unit
  | absent
  | present (value : Value M)
  | list (items : List (Value M))
  | boxed (value : Value M)
  | cell (value : Value M)
  | pair (first second : Value M)
  | record (key : M) (fields : List (Value M))
deriving Repr

namespace Value

variable {M : Type}

/-! ## Equality -/

section Equality

variable [DecidableEq M]

mutual

/-- Whether two values are equal as their types compare them. -/
def same : Value M → Value M → Bool
  | .integer m, .integer n => m == n
  | .float x, .float y => x.same y
  | .bool b, .bool c => b == c
  | .char c, .char d => c == d
  | .text s, .text t => s == t
  | .unit, .unit => true
  | .absent, .absent => true
  | .present v, .present w => v.same w
  | .list vs, .list ws => sameAll vs ws
  | .boxed v, .boxed w => v.same w
  | .cell v, .cell w => v.same w
  | .pair a b, .pair c d => a.same c && b.same d
  | .record k vs, .record l ws => decide (k = l) && sameAll vs ws
  | _, _ => false

def sameAll : List (Value M) → List (Value M) → Bool
  | [], [] => true
  | v :: vs, w :: ws => v.same w && sameAll vs ws
  | _, _ => false

end

end Equality

/-! ## Parts -/

def ofOption : Option (Value M) → Value M
  | some value => .present value
  | none => .absent

/-- The field at a place, if the value is that of a model. -/
def field? : Value M → Nat → Option (Value M)
  | .record _ fields, index => fields[index]?
  | _, _ => none

theorem sizeOf_field?_lt {value field : Value M} {index : Nat}
    (h : value.field? index = some field) : sizeOf field < sizeOf value := by
  cases value with
  | record key fields =>
    have member : field ∈ fields := List.mem_of_getElem? h
    have smaller := List.sizeOf_lt_of_mem member
    simp only [record.sizeOf_spec]
    omega
  | _ => simp [field?] at h

end Value

def Wrapper.project {M : Type} : Wrapper → Value M → Option (Value M)
  | .plain, value => some value
  | .optional, .present value => some value
  | .boxed, .boxed value => some value
  | .optionalBoxed, .present (.boxed value) => some value
  | _, _ => none

theorem Wrapper.sizeOf_project_le {M : Type} {wrapper : Wrapper} {value inner : Value M}
    (h : wrapper.project value = some inner) : sizeOf inner ≤ sizeOf value := by
  unfold Wrapper.project at h
  split at h <;> simp_all <;> omega

end FieldDelta
