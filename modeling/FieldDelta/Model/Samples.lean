import FieldDelta.Model.Schema

/-! # Sample models

A family of models that shows every way in which a property can be compared:

* flat models, and models nested plainly, behind an option, a box or both (`parent`);
* models that hold themselves (`node`) or one another (`left`, `right`);
* a nested model that is compared as one value (`snapshot`);
* fields that are hidden or left out (`account`), that have the names of generated members
  (`reading`), or that have no names (`point`);
* values that are shared or may change while shared (`note`).
-/

namespace FieldDelta

/-- The sample models. -/
inductive SampleModel where
  | testModel
  | child
  | parent
  | listing
  | note
  | node
  | left
  | right
  | preferences
  | snapshot
  | account
  | reading
  | point
  | counter
deriving DecidableEq, Repr

namespace SampleModel

def all : List SampleModel :=
  [testModel, child, parent, listing, note, node, left, right, preferences, snapshot, account,
   reading, point, counter]

/-! ## Modules -/

/-- The module of flat and nested models. -/
def catalogModule : String := "deltagen_fixtures::catalog"

/-- The module of models that refer to themselves. -/
def graphModule : String := "deltagen_fixtures::graph"

/-- The module of models with special fields. -/
def settingsModule : String := "deltagen_fixtures::settings"

/-! ## Declarations -/

def tracked (identifier : String) (type : ValueType SampleModel) : ModelField SampleModel where
  identifier := identifier
  type := type

/-- A field that is hidden or left out. -/
def untracked (identifier : String) (type : ValueType SampleModel) : ModelField SampleModel where
  identifier := identifier
  type := type
  tracked := false

def schema : SampleModel → Schema SampleModel
  | testModel =>
    { modulePath := catalogModule
      name := "TestModel"
      fields := [tracked "name" .text, tracked "value" (.integer .i32),
        tracked "is_active" .bool] }
  | child =>
    { modulePath := catalogModule
      name := "Child"
      fields := [tracked "value" (.integer .i32), tracked "label" .text] }
  | parent =>
    { modulePath := catalogModule
      name := "Parent"
      fields := [tracked "name" .text, tracked "child" (.model child),
        tracked "spare" (.option (.model child)), tracked "boxed" (.box (.model child))] }
  | listing =>
    { modulePath := catalogModule
      name := "Listing"
      fields := [tracked "title" .text, tracked "tags" (.list .text),
        tracked "origin" (.option (.model node))] }
  | note =>
    { modulePath := catalogModule
      name := "Note"
      fields := [tracked "body" .sharedText, tracked "views" (.cell (.integer .u32))] }
  | node =>
    { modulePath := graphModule
      name := "Node"
      fields := [tracked "value" (.integer .i32), tracked "next" (.option (.box (.model node)))] }
  | left =>
    { modulePath := graphModule
      name := "Left"
      fields := [tracked "id" (.integer .u32), tracked "right" (.option (.box (.model right)))] }
  | right =>
    { modulePath := graphModule
      name := "Right"
      fields := [tracked "id" (.integer .u32), tracked "left" (.option (.box (.model left)))] }
  | preferences =>
    { modulePath := settingsModule
      name := "Preferences"
      fields := [tracked "theme" .text, tracked "font_size" (.integer .u16)] }
  | snapshot =>
    { modulePath := settingsModule
      name := "Snapshot"
      fields := [tracked "label" .text, tracked "preferences" (.model preferences)]
      deepTracking := false }
  | account =>
    { modulePath := settingsModule
      name := "Account"
      fields := [tracked "email" .text, untracked "password_hash" .text,
        tracked "login_count" (.integer .u32), tracked "r#type" (.integer .u8),
        untracked "secret" (.integer .u64)] }
  | reading =>
    { modulePath := settingsModule
      name := "Reading"
      fields := [tracked "previous" (.integer .u32), tracked "current" (.integer .u32)] }
  | point =>
    { modulePath := settingsModule
      name := "Point"
      fields := [tracked "0" (.integer .i32), tracked "1" (.integer .i32)]
      shape := .tuple }
  | counter =>
    { modulePath := settingsModule
      name := "Counter"
      fields := [tracked "count" (.integer .u32)] }

def initialFields : SampleModel → List (Value SampleModel)
  | testModel => [.text "", .integer 0, .bool false]
  | child => [.integer 0, .text ""]
  | parent =>
    let newChild := .record child [.integer 0, .text ""]
    [.text "", newChild, .absent, .boxed newChild]
  | listing => [.text "", .list [], .absent]
  | note => [.text "", .cell (.integer 0)]
  | node | left | right => [.integer 0, .absent]
  | preferences => [.text "", .integer 0]
  | snapshot => [.text "", .record preferences [.text "", .integer 0]]
  | account => [.text "", .text "", .integer 0, .integer 0, .integer 0]
  | reading => [.integer 0, .integer 0]
  | point => [.integer 0, .integer 0]
  | counter => [.integer 0]

instance : Catalogue SampleModel where
  schema := schema
  initialFields := initialFields

/-- The initial fields of a sample model are the initial values of their types. -/
theorem initialFields_eq (key : SampleModel) :
    initialFields key = (schema key).fields.map (·.type.initial) := by
  cases key <;> rfl

def named? (name : String) : Option SampleModel :=
  all.find? fun key => (schema key).name == name

/-! ## Values -/

/-- The chain of nodes with the given numbers, the first at the head. -/
def chain : List Int → Option (Value SampleModel)
  | [] => none
  | n :: rest => some (.record node [.integer n, .ofOption ((chain rest).map .boxed)])

end SampleModel
end FieldDelta
