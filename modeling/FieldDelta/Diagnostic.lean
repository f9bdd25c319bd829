/-! # Diagnostics

A diagnostic names the type or file it is about by path, never by position, so it changes only
when the declaration itself moves.

* `Diagnostic.text` — the form for a terminal, over several lines;
* `Diagnostic.toLine` — the form for a build script's warnings, on one line.
-/

namespace FieldDelta

/-- What kind of thing went wrong, in the order of the stages that report it. -/
inductive Code where
  /-- A source file or declaration does not parse. -/
  | unreadable
  /-- The marker stands on an enum or a union. -/
  | notAStruct
  /-- The marked type has generic or lifetime parameters. -/
  | parameterised
  /-- An argument of a marker or field is ignored. -/
  | argumentIgnored
  /-- A type climbs above the crate root. -/
  | aboveRoot
  /-- Two properties map to one member. -/
  | memberClash
  /-- An accessor was renamed to avoid a generated member. -/
  | accessorRenamed
  /-- Two candidates share one identity. -/
  | duplicateIdentity
  /-- Two tracked types share one generated name. -/
  | nameClash
deriving DecidableEq, Repr

namespace Code

/-- All codes, in order. -/
def all : List Code :=
  [unreadable, notAStruct, parameterised, argumentIgnored, aboveRoot, memberClash,
   accessorRenamed, duplicateIdentity, nameClash]

def text : Code → String
  | unreadable => "D0001"
  | notAStruct => "D0002"
  | parameterised => "D0003"
  | argumentIgnored => "D0004"
  | aboveRoot => "D0005"
  | memberClash => "D0006"
  | accessorRenamed => "D0007"
  | duplicateIdentity => "D0008"
  | nameClash => "D0009"

def ofText? (s : String) : Option Code :=
  all.find? (·.text == s)

end Code

/-- How grave a diagnostic is. -/
inductive Severity where
  /-- The subject produces no output. -/
  | error
  /-- Output is produced; something was corrected or ignored. -/
  | warning
deriving DecidableEq, Repr

def Severity.text : Severity → String
  | error => "error"
  | warning => "warning"

/-- One finding about a type or file. -/
structure Diagnostic where
  code : Code
  severity : Severity
  message : String := ""
  /-- The type identity or file that the diagnostic is about. -/
  subject : Option String := none
  notes : List String := []
deriving DecidableEq, Repr

namespace Diagnostic

def isError (d : Diagnostic) : Bool :=
  d.severity == .error

/-- Severity, code and message: what every form begins with. -/
def headline (d : Diagnostic) : String :=
  d.severity.text ++ " [" ++ d.code.text ++ "]: " ++ d.message

/-- The form over several lines. -/
def text (d : Diagnostic) : String :=
  let subject := match d.subject with
    | some subject => "\n  --> " ++ subject
    | none => ""
  d.headline ++ subject ++ String.join (d.notes.map ("\n  = note: " ++ ·))

def toLine (d : Diagnostic) : String :=
  let subject := match d.subject with
    | some subject => " (" ++ subject ++ ")"
    | none => ""
  d.headline ++ subject ++ String.join (d.notes.map ("; " ++ ·))

end Diagnostic
end FieldDelta
