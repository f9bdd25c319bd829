import FieldDelta.Diagnostic

/-! # Output

What a generation produces: source files, each about one subject, and the diagnostics of all
stages.
-/

namespace FieldDelta

/-- What an output unit holds. -/
inductive UnitKind where
  /-- The support types, emitted at most once. -/
  | support
  /-- The delta type of one tracked type. -/
  | delta
  /-- The list of a module's delta units. -/
  | manifest
deriving DecidableEq, Repr

/-- A generated source file. -/
structure OutputUnit where
  fileName : String
  kind : UnitKind
  /-- The type or module that the unit is generated for. -/
  subject : String
  text : String
deriving DecidableEq, Repr

/-- Everything that one generation produces: the support unit first, then delta units in
    identity order, then manifests in module order. -/
structure Generation where
  units : List OutputUnit := []
  diagnostics : List Diagnostic := []
deriving DecidableEq, Repr

namespace Generation

def unit? (generation : Generation) (fileName : String) : Option OutputUnit :=
  generation.units.find? (·.fileName == fileName)

def unitsOf (generation : Generation) (kind : UnitKind) : List OutputUnit :=
  generation.units.filter (·.kind == kind)

def hasErrors (generation : Generation) : Bool :=
  generation.diagnostics.any (·.isError)

end Generation
end FieldDelta
