import FieldDelta.Compilation

/-! # The store of the incremental engine

The store holds the inputs of a compilation, each with the revision at which it was last set, and
what has been computed from them.

* `Store` — inputs, revisions and memo tables;
* `addUnit`, `setText` and their like — the steps that change inputs; each but the first opens
  a revision, even if it sets an equal value.
-/

namespace FieldDelta.Query

/-! ## What is remembered -/

/-- A query that can be executed. -/
inductive Query where
  | collected (unit : Nat)
  | descriptor (candidate : Candidate)
  | graph
  | support
  | emitted (node : Descriptor) (options : Options)
  | generated
deriving DecidableEq, Repr

/-- A value with the revision at which it was last computed. -/
structure Memo (α : Type) where
  value : α
  ranAt : Nat
deriving Repr

/-- What was collected from a unit, with the revisions at which that was last computed and last
    came out different. -/
structure CollectedMemo where
  value : Collected
  ranAt : Nat
  changedAt : Nat
deriving Repr

/-- A source unit, the revision at which it was last set, and what was collected from it. -/
structure UnitEntry where
  source : Source
  setAt : Nat
  memo : Option CollectedMemo := none
deriving Repr

/-- The inputs of a compilation and everything computed from them.  Units are known by their
    index; only the listed ones belong to the compilation. -/
structure Store where
  revision : Nat := 0
  units : List UnitEntry := []
  listed : List Nat := []
  listedAt : Nat := 0
  options : Options := {}
  optionsAt : Nat := 0
  /-- The outcomes of all candidates ever asked for. -/
  outcomes : List (Candidate × Outcome) := []
  /-- The units of all nodes ever emitted, with the options of that time. -/
  emitted : List ((Descriptor × Options) × OutputUnit) := []
  support : Option (Memo (Option OutputUnit)) := none
  graph : Option (Memo Graph) := none
  generated : Option (Memo Generation) := none
  /-- The queries executed so far, last one first. -/
  executed : List Query := []
deriving Repr

namespace Store

/-! ## Changing inputs -/

/-- Adds a unit, which is not listed, and answers its index. -/
def addUnit (store : Store) (source : Source) : Nat × Store :=
  (store.units.length,
    { store with units := store.units ++ [{ source := source, setAt := store.revision }] })

def setSource (store : Store) (unit : Nat) (change : Source → Source) : Store :=
  let revision := store.revision + 1
  { store with
    revision := revision
    units := store.units.modify unit fun entry =>
      { entry with source := change entry.source, setAt := revision } }

def setText (store : Store) (unit : Nat) (text : String) : Store :=
  store.setSource unit fun source => { source with text := text }

def setPath (store : Store) (unit : Nat) (path : String) : Store :=
  store.setSource unit fun source => { source with path := path }

def setModule (store : Store) (unit : Nat) (modulePath : String) : Store :=
  store.setSource unit fun source => { source with modulePath := modulePath }

/-- Sets which units belong to the compilation.  A unit that was never added cannot. -/
def setListed (store : Store) (listed : List Nat) : Store :=
  let revision := store.revision + 1
  { store with
    revision := revision
    listed := listed.filter (· < store.units.length)
    listedAt := revision }

def setOptions (store : Store) (options : Options) : Store :=
  let revision := store.revision + 1
  { store with revision := revision, options := options, optionsAt := revision }

/-! ## The inputs as a compilation -/

def source? (store : Store) (unit : Nat) : Option Source :=
  store.units[unit]?.map (·.source)

/-- The compilation that the inputs make up. -/
def compilation (store : Store) : Compilation where
  sources := store.listed.filterMap store.source?
  options := store.options

def execute (store : Store) (query : Query) : Store :=
  { store with executed := query :: store.executed }

end Store
end FieldDelta.Query
