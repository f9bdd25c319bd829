import FieldDelta.Files.Path
import FieldDelta.Query.Evaluation

/-! # Sessions

A session keeps the store of the incremental engine between runs and knows the source of each
module.  Setting what is set already changes nothing.
-/

namespace FieldDelta

open Query

/-- A generation that is repeated as sources change. -/
structure Session where
  store : Store := {}
  /-- The modules that have a source, in rising order, with their units. -/
  units : List (String × Nat) := []

namespace Session

def new (options : Options) : Session where
  store := { options := options }

/-- The modules that have a source, in order. -/
def modules (session : Session) : List String :=
  session.units.map (·.1)

def unit? (session : Session) (modulePath : String) : Option Nat :=
  (session.units.find? (·.1 == modulePath)).map (·.2)

/-- Puts the unit of a new module at its place. -/
def insertUnit (modulePath : String) (unit : Nat) : List (String × Nat) → List (String × Nat)
  | [] => [(modulePath, unit)]
  | first :: rest =>
    if modulePath < first.1 then (modulePath, unit) :: first :: rest
    else first :: insertUnit modulePath unit rest

/-- The session with the given units, which become those of its compilation. -/
def withUnits (session : Session) (units : List (String × Nat)) : Session where
  store := session.store.setListed (units.map (·.2))
  units := units

/-- Changes the source of a unit to the given path and text, where they differ. -/
def updateUnit (store : Store) (unit : Nat) (path text : String) : Store :=
  match store.source? unit with
  | none => store
  | some source =>
    let store := if Files.Path.same source.path path then store else store.setPath unit path
    if source.text = text then store else store.setText unit text

def setSource (session : Session) (modulePath path text : String) : Session :=
  match session.unit? modulePath with
  | some unit => { session with store := updateUnit session.store unit path text }
  | none =>
    let (unit, store) := session.store.addUnit ⟨modulePath, path, text⟩
    { session with store := store }.withUnits (insertUnit modulePath unit session.units)

/-- Forgets the source of a module, and tells whether there was one. -/
def removeSource (session : Session) (modulePath : String) : Bool × Session :=
  match session.unit? modulePath with
  | some _ => (true, session.withUnits (session.units.filter (·.1 != modulePath)))
  | none => (false, session)

def setOptions (session : Session) (options : Options) : Session :=
  if session.store.options = options then session
  else { session with store := session.store.setOptions options }

/-- Runs the pipeline on the current sources. -/
def generate (session : Session) : Generation × Session :=
  let (generation, store) := session.store.askGenerated
  (generation, { session with store := store })

/-- The descriptor graph of the current sources. -/
def graph (session : Session) : Graph × Session :=
  let (graph, store) := session.store.askGraph
  (graph, { session with store := store })

end Session
end FieldDelta
