import FieldDelta.Marker

/-! # Admission of marked declarations

The marker checks the declaration it stands on before anything is generated: only structs
without parameters are admitted, and arguments that no default can replace are refused.
Arguments that have a default to fall back to pass.
-/

namespace FieldDelta

open Syntax

/-- Why a marked declaration is refused. -/
inductive Refusal where
  | notAStruct
  | parameterised
  /-- An argument of the type or of a field. -/
  | argument (issue : Marker.Issue)
deriving DecidableEq, Repr

def Refusal.message : Refusal → String
  | notAStruct => "TrackDelta derive only supports structs"
  | parameterised => "TrackDelta does not support generic or lifetime parameters"
  | argument issue => issue.message

/-- The issues of all arguments of a struct: those of the type, then those of its fields. -/
def argumentIssues (attributes : List Attribute) (fields : List Field) : List Marker.Issue :=
  (Marker.readConfig attributes).2 ++
    fields.flatMap fun field => (Marker.readField field.attributes).2

/-- Everything for which a type declaration is refused; nothing if it is admitted.  There is no
    answer for an item that declares no type. -/
def refusals? : Item → Option (List Refusal)
  | .struct decl fields =>
    if decl.parameters.isEmpty then
      some (((argumentIssues decl.attributes fields.toList).filter (·.isHard)).map .argument)
    else some [.parameterised]
  | .enum _ _ => some [.notAStruct]
  | .union _ _ => some [.notAStruct]
  | _ => none

end FieldDelta
