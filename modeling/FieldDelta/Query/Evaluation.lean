import FieldDelta.Query.Store

/-! # Asking queries

A query is executed only when its answer may have changed since it was last computed.

* What is collected from a unit is computed anew when the unit was set since.  It counts as
  changed only if it comes out different.
* Outcomes of candidates and units of nodes depend on nothing but what they are asked for, so
  they are computed once.
* The graph and the generation are computed anew when the list of units or the options were set
  since, or when what is collected from a listed unit has changed.  To find out, the listed units
  are collected first.

Every query answers its value with the store that remembers it.
-/

namespace FieldDelta.Query

/-- Asks the same of several things, one after the other. -/
def askAll {α β : Type} (ask : α → Store → β × Store) : List α → Store → List β × Store
  | [], store => ([], store)
  | first :: rest, store =>
    let (answer, store) := ask first store
    let (answers, store) := askAll ask rest store
    (answer :: answers, store)

/-! ## Collecting -/

namespace UnitEntry

def fresh? (entry : UnitEntry) : Option Collected :=
  match entry.memo with
  | some memo => if memo.ranAt < entry.setAt then none else some memo.value
  | none => none

/-- The revision at which what is collected has changed, when it comes out as `value` in
    `revision`. -/
def changedAt (entry : UnitEntry) (value : Collected) (revision : Nat) : Nat :=
  match entry.memo with
  | some memo => if memo.value = value then memo.changedAt else revision  -- early cutoff
  | none => revision

/-- The unit with what is collected from it in `revision`. -/
def recollected (entry : UnitEntry) (revision : Nat) : UnitEntry :=
  let value := entry.source.collected
  { entry with memo := some ⟨value, revision, entry.changedAt value revision⟩ }

/-- Whether what is collected has changed since `revision`. -/
def changedSince (entry : UnitEntry) (revision : Nat) : Bool :=
  match entry.memo with
  | some memo => decide (revision < memo.changedAt)
  | none => true

end UnitEntry

namespace Store

/-- Collects from a unit anew. -/
def recollect (unit : Nat) (entry : UnitEntry) (store : Store) : Store :=
  { store with units := store.units.set unit (entry.recollected store.revision) }.execute
    (.collected unit)

def askCollected (unit : Nat) (store : Store) : Collected × Store :=
  match store.units[unit]? with
  | none => ({}, store)
  | some entry =>
    match entry.fresh? with
    | some value => (value, store)
    | none => (entry.source.collected, store.recollect unit entry)

def askListed (store : Store) : List Collected × Store :=
  askAll askCollected store.listed store

/-- Whether anything that the graph and the generation read has changed since `revision`.  The
    listed units must be up to date. -/
def inputsChangedSince (store : Store) (revision : Nat) : Bool :=
  decide (revision < store.listedAt) || decide (revision < store.optionsAt)
    || store.listed.any fun unit =>
      (store.units[unit]?.map (·.changedSince revision)).getD false

def valid? {α : Type} (store : Store) (memo : Option (Memo α)) : Option α :=
  match memo with
  | some memo => if store.inputsChangedSince memo.ranAt then none else some memo.value
  | none => none

/-! ## Remembering answers -/

def rememberOutcome (candidate : Candidate) (outcome : Outcome) (store : Store) : Store :=
  { store with outcomes := (candidate, outcome) :: store.outcomes }.execute (.descriptor candidate)

def rememberEmitted (options : Options) (node : Descriptor) (unit : OutputUnit) (store : Store) :
    Store :=
  { store with emitted := ((node, options), unit) :: store.emitted }.execute
    (.emitted node options)

def rememberSupport (value : Option OutputUnit) (store : Store) : Store :=
  { store with support := some ⟨value, store.revision⟩ }.execute .support

def rememberGraph (value : Graph) (store : Store) : Store :=
  { store with graph := some ⟨value, store.revision⟩ }.execute .graph

def rememberGenerated (value : Generation) (store : Store) : Store :=
  { store with generated := some ⟨value, store.revision⟩ }.execute .generated

/-! ## Queries that depend on what they are asked for -/

def askOutcome (candidate : Candidate) (store : Store) : Outcome × Store :=
  match store.outcomes.find? (·.1 == candidate) with
  | some (_, outcome) => (outcome, store)
  | none =>
    let outcome := describe candidate
    (outcome, store.rememberOutcome candidate outcome)

def askEmitted (options : Options) (node : Descriptor) (store : Store) : OutputUnit × Store :=
  match store.emitted.find? (·.1 == (node, options)) with
  | some (_, unit) => (unit, store)
  | none =>
    let unit := DeltaUnit.emit node options
    (unit, store.rememberEmitted options node unit)

/-! ## The support unit -/

/-- Computes the support unit, which depends on the options only. -/
def computeSupport (store : Store) : Option OutputUnit × Store :=
  let value := store.options.supportUnit?
  (value, store.rememberSupport value)

/-- The support unit, unless it is provided elsewhere. -/
def askSupport (store : Store) : Option OutputUnit × Store :=
  match store.support with
  | some memo => if memo.ranAt < store.optionsAt then store.computeSupport else (memo.value, store)
  | none => store.computeSupport

/-! ## Queries that read the listed units -/

/-- The memo that `memo?` picks, if it is still valid.  Else what `compute` makes of what is
    collected from the listed units, for `remember` to keep. -/
def askListing {α : Type} (memo? : Store → Option (Memo α))
    (compute : List Collected → Store → α × Store) (remember : α → Store → Store)
    (store : Store) : α × Store :=
  let (found, store) := store.askListed
  match store.valid? (memo? store) with
  | some value => (value, store)
  | none =>
    let (value, store) := compute found store
    (value, remember value store)

def computeGraph (found : List Collected) (store : Store) : Graph × Store :=
  let (outcomes, store) := askAll askOutcome (found.flatMap (·.candidates)) store
  (Graph.assemble (Outcome.descriptors outcomes) store.options, store)

def askGraph : Store → Graph × Store :=
  askListing graph computeGraph rememberGraph

/-- The outcomes of the candidates of collected files, file by file. -/
def askOutcomes (found : List Collected) (store : Store) :
    List (Collected × List Outcome) × Store :=
  askAll (fun collected store =>
    let (outcomes, store) := askAll askOutcome collected.candidates store
    ((collected, outcomes), store)) found store

def computeGenerated (found : List Collected) (store : Store) : Generation × Store :=
  let (described, store) := store.askOutcomes found
  let (graph, store) := store.askGraph
  let (support, store) := store.askSupport
  let (units, store) := askAll (askEmitted store.options) graph.nodes store
  ({ units :=
      support.toList ++ units ++ manifests (found.flatMap (·.candidates)) graph store.options
     diagnostics := stageDiagnostics described ++ graph.diagnostics }, store)

/-- Runs the whole pipeline. -/
def askGenerated : Store → Generation × Store :=
  askListing generated computeGenerated rememberGenerated

end Store
end FieldDelta.Query
