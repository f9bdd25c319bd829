import FieldDelta.Description
import FieldDelta.Graph
import FieldDelta.Output.DeltaUnit
import FieldDelta.Output.Manifest
import FieldDelta.Output.SupportUnit

/-! # Compilations

A compilation is a list of source files with the options for all of them.  The functions here
compute everything from scratch.

* `Compilation.graph` — the descriptor graph;
* `Compilation.generate` — the generation.
-/

namespace FieldDelta

/-- A source file. -/
structure Source where
  /-- The module that the file's items live in. -/
  modulePath : String
  /-- The file, as diagnostics name it. -/
  path : String
  text : String
deriving DecidableEq, Repr

def Source.collected (source : Source) : Collected :=
  collect source.modulePath source.path source.text

/-- The source files of a crate, and the options. -/
structure Compilation where
  sources : List Source := []
  options : Options := {}
deriving DecidableEq, Repr

/-! ## Assembling results

The parts of a generation are put together by functions of the results of earlier stages, so
that the results may come from anywhere. -/

def Outcome.descriptors (outcomes : List Outcome) : List Descriptor :=
  outcomes.filterMap (·.descriptor)

/-- The support unit, unless it is provided elsewhere. -/
def Options.supportUnit? (options : Options) : Option OutputUnit :=
  if options.supportScheduled then none else some SupportUnit.emit

/-- The modules that get a manifest: those with a candidate or a node, in order. -/
def manifestModules (candidates : List Candidate) (graph : Graph) : List String :=
  Text.sorted (candidates.map (·.modulePath) ++ graph.nodes.map (·.modulePath))

/-- The files that the manifest of a module includes, in identity order. -/
def manifestFiles (graph : Graph) (modulePath : String) : List String :=
  (graph.nodes.filter (·.modulePath == modulePath)).map fun node =>
    Naming.deltaUnitFileName node.generatedName

/-- The manifests of a compilation, in module order.  A module all of whose candidates have
    failed gets an empty one, so that it can be mounted all the same. -/
def manifests (candidates : List Candidate) (graph : Graph) (options : Options) :
    List OutputUnit :=
  (manifestModules candidates graph).map fun modulePath =>
    Manifest.emit modulePath (manifestFiles graph modulePath) options

/-- The diagnostics of collected files with the outcomes of their candidates: those of a file
    precede those of its candidates. -/
def stageDiagnostics (found : List (Collected × List Outcome)) : List Diagnostic :=
  found.flatMap fun (collected, outcomes) =>
    collected.diagnostics ++ outcomes.flatMap (·.diagnostics)

def graphOf (found : List Collected) (options : Options) : Graph :=
  Graph.assemble (Outcome.descriptors ((found.flatMap (·.candidates)).map describe)) options

def generationOf (found : List Collected) (options : Options) : Generation :=
  let graph := graphOf found options
  { units :=
      options.supportUnit?.toList ++ graph.nodes.map (DeltaUnit.emit · options)
        ++ manifests (found.flatMap (·.candidates)) graph options
    diagnostics :=
      stageDiagnostics (found.map fun c => (c, c.candidates.map describe)) ++ graph.diagnostics }

/-! ## From scratch -/

namespace Compilation

def collected (compilation : Compilation) : List Collected :=
  compilation.sources.map Source.collected

def graph (compilation : Compilation) : Graph :=
  graphOf compilation.collected compilation.options

/-- Runs the whole pipeline. -/
def generate (compilation : Compilation) : Generation :=
  generationOf compilation.collected compilation.options

end Compilation
end FieldDelta
