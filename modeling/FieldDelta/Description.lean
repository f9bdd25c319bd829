import FieldDelta.Candidate
import FieldDelta.Descriptor

/-! # Description of candidates

`describe` turns a candidate into the descriptor of a tracked type.  A candidate is described on
its own: which of its properties refer to other tracked types is left open.

* `Problem` — everything that can go wrong, and the diagnostic for it;
* `describeFields` — the properties of a list of fields;
* `describe` — the descriptor, unless a problem is an error, and the diagnostics.
-/

namespace FieldDelta

open Syntax

/-! ## Problems -/

/-- What is wrong with a candidate. -/
inductive Problem where
  | notAStruct (kind : Candidate.Kind)
  | unreadable
  | parameterised
  /-- An argument of the type or of a field is ignored. -/
  | argument (issue : Marker.Issue)
  /-- The accessor of the property `name` would be a generated member. -/
  | accessorRenamed (name accessor : String)
  | memberClash (first second member : String)
  | aboveRoot (name path : String)
deriving DecidableEq, Repr

namespace Problem

/-- The indefinite article before the name of a kind. -/
def article : Candidate.Kind → String
  | .enum => "an"
  | _ => "a"

def code : Problem → Code
  | notAStruct _ => .notAStruct
  | unreadable => .unreadable
  | parameterised => .parameterised
  | argument _ => .argumentIgnored
  | accessorRenamed _ _ => .accessorRenamed
  | memberClash _ _ _ => .memberClash
  | aboveRoot _ _ => .aboveRoot

def severity : Problem → Severity
  | argument _ => .warning
  | accessorRenamed _ _ => .warning
  | _ => .error

/-- The wording of a problem of the type called `typeName`. -/
def message (typeName : String) : Problem → String
  | notAStruct kind =>
    "`" ++ typeName ++ "` is " ++ article kind ++ " " ++ kind.text ++
      "; only structs can be tracked"
  | unreadable => "failed to re-read declaration: not a struct"
  | parameterised => "`" ++ typeName ++ "` has generic or lifetime parameters"
  | argument issue => issue.message
  | accessorRenamed name accessor =>
    "property `" ++ name ++ "` clashes with a generated member; its accessor is `" ++ accessor ++
      "`"
  | memberClash first second member =>
    "properties `" ++ first ++ "` and `" ++ second ++ "` both map to member `" ++ member ++ "`"
  | aboveRoot name path =>
    "type of property `" ++ name ++ "` refers to `" ++ path ++ "`, which is above the crate root"

def notes : Problem → List String
  | parameterised => ["delta types are generated for concrete types only"]
  | accessorRenamed _ _ =>
    ["rename the field or mark it `#[delta(ignore)]` to keep the default accessor name"]
  | _ => []

def diagnostic (identity : TypeIdentity) (problem : Problem) : Diagnostic where
  code := problem.code
  severity := problem.severity
  message := problem.message identity.name
  subject := some identity.path
  notes := problem.notes

end Problem

/-! ## Fields -/

/-- Whether a field takes part in tracking: it is visible in the whole crate at least. -/
def isExposed : Visibility → Bool
  | .pub => true
  | .restricted false path => path.isIdent "crate"
  | _ => false

/-- The field as it is accessed: its identifier, or its index in a tuple. -/
def fieldAccess (index : Nat) (field : Field) : String :=
  field.name.getD (toString index)

/-- The accessor of a field, and the problem that a generated member has its name. -/
def accessor (access : String) : String × List Problem :=
  let member := Naming.memberName access
  match Naming.unreservedMember member with
  | some renamed => (renamed, [.accessorRenamed (Naming.pathSegment access) renamed])
  | none => (member, [])

/-- The properties of the fields from `index` on, and their problems in order.  `taken` holds the
    accessors in use, each with the name of its property. -/
def describeFields (resolver : Resolver) (index : Nat) (taken : List (String × String)) :
    List Field → List Property × List Problem
  | [] => ([], [])
  | field :: rest =>
    let (ignored, issues) := Marker.readField field.attributes
    let warnings := issues.map Problem.argument
    if ignored || !isExposed field.visibility then
      -- Left out: no accessor is taken, and its type is not looked at.
      let (properties, problems) := describeFields resolver (index + 1) taken rest
      (properties, warnings ++ problems)
    else
      let access := fieldAccess index field
      let name := Naming.pathSegment access
      let (member, renamed) := accessor access
      match taken.find? (·.1 == member) with
      | some (_, first) =>
        -- The first field keeps the accessor.
        let (properties, problems) := describeFields resolver (index + 1) taken rest
        (properties, warnings ++ renamed ++ .memberClash first name member :: problems)
      | none =>
        let (properties, problems) :=
          describeFields resolver (index + 1) ((member, name) :: taken) rest
        match resolver.declaredType field.type with
        | .ok type =>
          ({ name := name, field := access, member := member, type := type } :: properties,
            warnings ++ renamed ++ problems)
        | .error unresolvable =>
          -- No property, but its accessor stays taken.
          (properties, warnings ++ renamed ++ .aboveRoot name unresolvable.path :: problems)

/-! ## Candidates -/

/-- The outcome of describing a candidate. -/
structure Outcome where
  /-- Absent if any diagnostic is an error. -/
  descriptor : Option Descriptor := none
  diagnostics : List Diagnostic := []
deriving DecidableEq, Repr

def DeltaVisibility.ofModel : Visibility → DeltaVisibility
  | .pub => .everywhere
  | .restricted _ _ => .crate
  | .inherited => .parent

def Shape.ofFields : Fields → Shape
  | .named _ => .named
  | .tuple _ => .tuple
  | .unit => .unit

/-- The resolver for the types written inside a candidate. -/
def Candidate.resolver (candidate : Candidate) : Resolver where
  modulePath := candidate.modulePath
  self := candidate.identity
  scope := candidate.scope

/-- The descriptor of a struct declaration, and its problems in order. -/
def describeStruct (candidate : Candidate) (decl : Declaration) (fields : Fields) :
    Descriptor × List Problem :=
  let (config, issues) := Marker.readConfig decl.attributes
  let (properties, problems) := describeFields candidate.resolver 0 [] fields.toList
  ({ identity := candidate.identity
     generatedName := config.generatedName candidate.identity.name
     config := config
     visibility := .ofModel decl.visibility
     shape := .ofFields fields
     properties := properties },
    issues.map Problem.argument ++ problems)

/-- The outcome with the given problems; the descriptor stands only if none is an error. -/
def Outcome.ofProblems (identity : TypeIdentity) (descriptor : Option Descriptor)
    (problems : List Problem) : Outcome where
  descriptor := if problems.any (·.severity == .error) then none else descriptor
  diagnostics := problems.map (·.diagnostic identity)

def describe (candidate : Candidate) : Outcome :=
  let refused (problem : Problem) := Outcome.ofProblems candidate.identity none [problem]
  if candidate.kind ≠ .struct then refused (.notAStruct candidate.kind)
  else
    match parseItem? candidate.item with
    | some (.struct decl fields) =>
      if decl.parameters.isEmpty then
        let (descriptor, problems) := describeStruct candidate decl fields
        .ofProblems candidate.identity (some descriptor) problems
      else refused .parameterised
    | _ => refused .unreadable

end FieldDelta
