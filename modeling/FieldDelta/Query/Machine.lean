import FieldDelta.Query.Evaluation

/-! # The engine as a machine

A step of the engine changes an input or asks a query.  Steps may come in any order.

* `Store.step`, `Store.run` — the machine that remembers what it has computed;
* `Inputs.step`, `Inputs.run` — the machine that knows the inputs only and computes every answer
  from scratch.
-/

namespace FieldDelta.Query

/-- What a query answers. -/
inductive Answer where
  | collected (value : Collected)
  | outcome (value : Outcome)
  | graph (value : Graph)
  | support (value : Option OutputUnit)
  | emitted (value : OutputUnit)
  | generated (value : Generation)

/-- A step of the engine.  Units are known by the index that adding them has answered. -/
inductive Step where
  | addUnit (source : Source)
  | setText (unit : Nat) (text : String)
  | setPath (unit : Nat) (path : String)
  | setModule (unit : Nat) (modulePath : String)
  | setListed (units : List Nat)
  | setOptions (options : Options)
  | ask (query : Query)

/-! ## With memory -/

namespace Store

def ask (query : Query) (store : Store) : Answer × Store :=
  match query with
  | .collected unit => (store.askCollected unit).map .collected id
  | .descriptor candidate => (store.askOutcome candidate).map .outcome id
  | .graph => store.askGraph.map .graph id
  | .support => store.askSupport.map .support id
  | .emitted node options => (store.askEmitted options node).map .emitted id
  | .generated => store.askGenerated.map .generated id

/-- Takes a step.  Only asking gives an answer. -/
def step (step : Step) (store : Store) : Option Answer × Store :=
  match step with
  | .addUnit source => (none, (store.addUnit source).2)
  | .setText unit text => (none, store.setText unit text)
  | .setPath unit path => (none, store.setPath unit path)
  | .setModule unit modulePath => (none, store.setModule unit modulePath)
  | .setListed units => (none, store.setListed units)
  | .setOptions options => (none, store.setOptions options)
  | .ask query => (store.ask query).map some id

/-- Takes steps one after the other, with the answer of each. -/
def run (steps : List Step) (store : Store) : List (Option Answer) × Store :=
  askAll step steps store

end Store

/-! ## Without memory -/

/-- The inputs of the engine, without anything computed from them. -/
structure Inputs where
  sources : List Source := []
  listed : List Nat := []
  options : Options := {}

def Store.inputs (store : Store) : Inputs where
  sources := store.units.map (·.source)
  listed := store.listed
  options := store.options

namespace Inputs

def compilation (inputs : Inputs) : Compilation where
  sources := inputs.listed.filterMap fun unit => inputs.sources[unit]?
  options := inputs.options

def collected (inputs : Inputs) (unit : Nat) : Collected :=
  (inputs.sources[unit]?.map Source.collected).getD {}

def answer (inputs : Inputs) : Query → Answer
  | .collected unit => .collected (inputs.collected unit)
  | .descriptor candidate => .outcome (describe candidate)
  | .graph => .graph inputs.compilation.graph
  | .support => .support inputs.options.supportUnit?
  | .emitted node options => .emitted (DeltaUnit.emit node options)
  | .generated => .generated inputs.compilation.generate

def setSource (inputs : Inputs) (unit : Nat) (change : Source → Source) : Inputs :=
  { inputs with sources := inputs.sources.modify unit change }

def step (step : Step) (inputs : Inputs) : Option Answer × Inputs :=
  match step with
  | .addUnit source => (none, { inputs with sources := inputs.sources ++ [source] })
  | .setText unit text => (none, inputs.setSource unit fun source => { source with text := text })
  | .setPath unit path => (none, inputs.setSource unit fun source => { source with path := path })
  | .setModule unit modulePath =>
    (none, inputs.setSource unit fun source => { source with modulePath := modulePath })
  | .setListed units =>
    (none, { inputs with listed := units.filter (· < inputs.sources.length) })
  | .setOptions options => (none, { inputs with options := options })
  | .ask query => (some (inputs.answer query), inputs)

/-- Takes steps one after the other, with the answer of each. -/
def run : List Step → Inputs → List (Option Answer) × Inputs
  | [], inputs => ([], inputs)
  | first :: rest, inputs =>
    let (answer, inputs) := inputs.step first
    let (answers, inputs) := run rest inputs
    (answer :: answers, inputs)

end Inputs
end FieldDelta.Query
