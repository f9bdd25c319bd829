import FieldDelta.Descriptor
import FieldDelta.Diagnostic
import FieldDelta.Options
import FieldDelta.Text.Sorted

/-! # The descriptor graph

The graph holds one node for each tracked type of a compilation, in identity order.  Its edges
are the identities on properties.  Assembly applies the rules that need all types at once:

* types that share an identity are left out, and so are types that share a generated name;
* a property whose type is a node refers to it, if its owner tracks deeply.

A type that no node has is not an error; its property is compared as a whole.
-/

namespace FieldDelta

/-- The tracked types of a compilation. -/
structure Graph where
  /-- The nodes in identity order. -/
  nodes : List Descriptor := []
  /-- What assembly has found. -/
  diagnostics : List Diagnostic := []
deriving DecidableEq, Repr

def Graph.get? (graph : Graph) (identity : TypeIdentity) : Option Descriptor :=
  graph.nodes.find? (·.identity == identity)

def deltaTypePath (descriptor : Descriptor) (options : Options) : String :=
  descriptor.modulePath ++ "::" ++ options.deltasModule ++ "::" ++ descriptor.generatedName

namespace Graph

/-! ## Which descriptors become nodes -/

def bearers (descriptors : List Descriptor) (identity : TypeIdentity) : List Descriptor :=
  descriptors.filter (·.identity == identity)

/-- The identities that descriptors carry, in order. -/
def identities (descriptors : List Descriptor) : List TypeIdentity :=
  (Text.sorted (descriptors.map (·.identity.path))).map TypeIdentity.mk

def only? : List Descriptor → Option Descriptor
  | [only] => some only
  | _ => none

/-- The descriptors that share their identity with no other, in identity order. -/
def unique (descriptors : List Descriptor) : List Descriptor :=
  (identities descriptors).filterMap fun identity => only? (bearers descriptors identity)

def claimants (descriptors : List Descriptor) (generatedName : String) : List Descriptor :=
  descriptors.filter (·.generatedName == generatedName)

/-- The descriptors that share their generated name with no other. -/
def distinctlyNamed (descriptors : List Descriptor) : List Descriptor :=
  descriptors.filter fun descriptor => (claimants descriptors descriptor.generatedName).length == 1

/-! ## What assembly finds -/

/-- The finding that an identity is carried several times. -/
def duplicateIdentity (identity : TypeIdentity) (count : Nat) : Diagnostic where
  code := .duplicateIdentity
  severity := .error
  message := "`" ++ identity.path ++ "` is declared " ++ toString count
    ++ " times with the tracking marker"
  subject := some identity.path
  notes := ["no delta type is generated for any of them"]

/-- The finding that several types have one generated name; `first` is the first of them. -/
def nameClash (generatedName : String) (first : TypeIdentity) (others : List TypeIdentity) :
    Diagnostic where
  code := .nameClash
  severity := .error
  message := "generated name `" ++ generatedName ++ "` is claimed by "
    ++ ", ".intercalate ((first :: others).map fun identity => "`" ++ identity.path ++ "`")
  subject := some first.path
  notes :=
    ["generated units share one output directory; rename a type or set a different suffix"]

/-- The findings about shared identities, in identity order. -/
def identityFindings (descriptors : List Descriptor) : List Diagnostic :=
  (identities descriptors).filterMap fun identity =>
    match (bearers descriptors identity).length with
    | 0 => none
    | 1 => none
    | count => some (duplicateIdentity identity count)

/-- The findings about shared generated names, in the order of the names. -/
def nameFindings (descriptors : List Descriptor) : List Diagnostic :=
  (Text.sorted (descriptors.map (·.generatedName))).filterMap fun generatedName =>
    match (claimants descriptors generatedName).map (·.identity) with
    | first :: second :: others => some (nameClash generatedName first (second :: others))
    | _ => none

/-! ## Links between nodes -/

/-- The node, among `nodes`, that a property's type refers to. -/
def target? (nodes : List Descriptor) (options : Options) (type : DeclaredType) :
    Option NestedReference :=
  type.candidates.findSome? fun identity =>
    (nodes.find? (·.identity == identity)).map fun node =>
      { identity := node.identity, deltaPath := deltaTypePath node options }

def linkProperty (nodes : List Descriptor) (options : Options) (property : Property) : Property :=
  { property with nested := target? nodes options property.type }

/-- A descriptor with the references of its properties; one that does not track deeply is left
    as it is. -/
def link (nodes : List Descriptor) (options : Options) (descriptor : Descriptor) : Descriptor :=
  if descriptor.config.deepTracking then
    let properties := descriptor.properties.map (linkProperty nodes options)
    let referred := properties.filterMap fun property => property.nested.map (·.identity.path)
    { descriptor with
      properties := properties
      nestedReferences := (Text.sorted referred).map TypeIdentity.mk }
  else descriptor

/-- Assembles the descriptors of a compilation.  Their order does not matter. -/
def assemble (descriptors : List Descriptor) (options : Options) : Graph :=
  let unique := unique descriptors
  let nodes := distinctlyNamed unique
  { nodes := nodes.map (link nodes options)
    diagnostics := identityFindings descriptors ++ nameFindings unique }

end Graph
end FieldDelta
