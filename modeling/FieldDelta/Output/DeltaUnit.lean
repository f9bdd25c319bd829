import FieldDelta.Descriptor
import FieldDelta.Layout
import FieldDelta.Options
import FieldDelta.Output

/-! # Delta units

The delta unit of a tracked type holds its delta type: a struct with a slot for each property,
filled when it is first asked for, and the four views of what has changed.  A plain property has
a `PropertyDelta`; a nested one has the boxed delta of the nested type.

A unit is included into the deltas module of the model's module, so property types are written
as the model writes them.  Support types and nested delta types are reached by absolute paths.

* `DeltaUnit.steps` — the layout of the unit, assembled from one function per item;
* `DeltaUnit.emit` — the unit.
-/

namespace FieldDelta.DeltaUnit

open Layout

/-! ## Names used in generated code -/

def optionType : String := "::core::option::Option"

def slotCell : String := "::core::cell::OnceCell"

def boxType : String := "::std::boxed::Box"

def iteratorModule : String := "::core::iter"

/-- What all items of a unit refer to. -/
structure Context where
  node : Descriptor
  /-- The path of the support types. -/
  support : String

namespace Context

def of (node : Descriptor) (options : Options) : Context :=
  ⟨node, options.supportPath⟩

/-- The model type, seen from the generated module. -/
def model (context : Context) : String :=
  s!"super::{context.node.typeName}"

def name (context : Context) : String :=
  context.node.generatedName

def visibility (context : Context) : String :=
  context.node.visibility.text

def properties (context : Context) : List Property :=
  context.node.properties

def sideType (context : Context) : String :=
  s!"{optionType}<&'a {context.model}>"

def propertyDelta (context : Context) (property : Property) : String :=
  s!"{context.support}::PropertyDelta<{property.type.spelled}>"

def slotType (context : Context) (property : Property) : String :=
  match property.nested with
  | some nested => s!"{slotCell}<{boxType}<{nested.deltaPath}<'a>>>"
  | none => s!"{slotCell}<{context.propertyDelta property}>"

end Context

def forEach (context : Context) (group : Property → List Step) : List Step :=
  context.properties.flatMap group

/-- The expression for the nested value of one side, seen through the property's wrapper. -/
def projection (side : String) (property : Property) : String :=
  match property.type.wrapper with
  | .plain => s!"{side}.map(|model| &model.{property.field})"
  | .optional => s!"{side}.and_then(|model| model.{property.field}.as_ref())"
  | .boxed => s!"{side}.map(|model| &*model.{property.field})"
  | .optionalBoxed => s!"{side}.and_then(|model| model.{property.field}.as_deref())"

/-- Returns `result` when both sides are absent: there is nothing to compare then, and nothing
    to descend into. -/
def absentGuard (result : String) : List Step :=
  [.opening "if self.previous.is_none() && self.current.is_none() \x7b",
   .line s!"return {result};",
   .closing "\x7d"]

/-! ## The struct -/

/-- The delta type itself. -/
def structSteps (context : Context) : List Step :=
  [.line s!"/// Field-level comparison of two [`{context.node.typeName}`]({context.model}) values.",
   .line "///",
   .line "/// Property deltas are computed on first access and cached.",
   .opening s!"{context.visibility} struct {context.name}<'a> \x7b",
   .line s!"previous: {context.sideType},",
   .line s!"current: {context.sideType},"]
    ++ forEach context (fun property =>
      [.line s!"{property.member}: {context.slotType property},"])
    ++ [.closing "\x7d"]

/-! ## Constructor and accessors -/

def constructorSteps (context : Context) : List Step :=
  [.line "/// Compare `previous` against `current`. Either side may be absent.",
   .opening "pub fn new(",
   .line s!"previous: {context.sideType},",
   .line s!"current: {context.sideType},",
   .reopening ") -> Self \x7b",
   .opening s!"{context.name} \x7b",
   .line "previous,",
   .line "current,"]
    ++ forEach context (fun property => [.line s!"{property.member}: {slotCell}::new(),"])
    ++ [.closing "\x7d",
        .closing "\x7d"]

def sideSteps (context : Context) (side : String) : List Step :=
  [.opening s!"pub fn {side}(&self) -> {context.sideType} \x7b",
   .line s!"self.{side}",
   .closing "\x7d"]

def valueAccessorSteps (context : Context) (property : Property) : List Step :=
  [.line s!"/// Delta of `{property.name}`.",
   .opening s!"pub fn {property.member}(&self) -> &{context.propertyDelta property} \x7b",
   .opening s!"self.{property.member}.get_or_init(|| \x7b",
   .opening s!"{context.support}::PropertyDelta::new(",
   .line s!"self.previous.map(|model| model.{property.field}.clone()).unwrap_or_default(),",
   .line s!"self.current.map(|model| model.{property.field}.clone()).unwrap_or_default(),",
   .closing ")",
   .closing "\x7d)",
   .closing "\x7d"]

def nestedAccessorSteps (property : Property) (nested : NestedReference) : List Step :=
  [.line s!"/// Nested delta of `{property.name}`.",
   .opening s!"pub fn {property.member}(&self) -> &{nested.deltaPath}<'a> \x7b",
   .opening s!"self.{property.member}.get_or_init(|| \x7b",
   .opening s!"{boxType}::new({nested.deltaPath}::new(",
   .line (projection "self.previous" property ++ ","),
   .line (projection "self.current" property ++ ","),
   .closing "))",
   .closing "\x7d)",
   .closing "\x7d"]

def accessorSteps (context : Context) (property : Property) : List Step :=
  match property.nested with
  | some nested => nestedAccessorSteps property nested
  | none => valueAccessorSteps context property

/-! ## Questions about changes -/

def changeCheck (property : Property) : String :=
  match property.nested with
  | some _ => s!"self.{property.member}().has_any_deltas()"
  | none => s!"self.{property.member}().has_changed()"

def disjunction : List String → List Step
  | [] => [.line "false"]
  | first :: rest =>
    absentGuard "false" ++ .line first :: rest.map fun check => .line s!"    || {check}"

/-- The method that tells whether anything has changed. -/
def anyDeltasSteps (context : Context) : List Step :=
  [.line "/// True if any tracked property, at any depth, differs.",
   .opening "pub fn has_any_deltas(&self) -> bool \x7b"]
    ++ disjunction (context.properties.map changeCheck)
    ++ [.closing "\x7d"]

/-- The method that tells whether a selected property has changed. -/
def selectedDeltaSteps (context : Context) : List Step :=
  [.line "/// Whether the property picked by `selector` has changed.",
   .line "///",
   .line "/// The selector may return a property delta or a nested delta.",
   .line "pub fn has_delta_in<S>(&self, selector: impl ::core::ops::FnOnce(&Self) -> &S) -> bool",
   .line "where",
   .line s!"    S: {context.support}::HasDelta + ?Sized,",
   .opening "\x7b",
   .line s!"{context.support}::HasDelta::has_delta(selector(self))",
   .closing "\x7d"]

/-! ## Listings of changes -/

/-- What is chained onto the iterator for one property.  It starts from the accessor, so that no
    delta is computed before the iterator gets there. -/
def chainSteps (property : Property) (adapters : List String) : List Step :=
  [.opening ".chain(",
   .line s!"{iteratorModule}::once_with(move || self.{property.member}())",
   .indent]
    ++ adapters.map .line
    ++ [.dedent,
        .closing ")"]

/-- The type of an iterator over `item`. -/
def iteratorType (item : String) : String :=
  s!"{boxType}<dyn ::core::iter::Iterator<Item = {item}> + '_>"

/-- The expression for the empty iterator over `item`. -/
def emptyIterator (item : String) : String :=
  s!"{iteratorModule}::empty::<{item}>()"

/-- A method that iterates over support type `item`, with one stage for each property. -/
def iteratorSteps (context : Context) (method item : String) (stage : Property → List String) :
    List Step :=
  let item := s!"{context.support}::{item}"
  let nothing := s!"{boxType}::new({emptyIterator item})"
  .opening s!"pub fn {method}(&self) -> {iteratorType item} \x7b" ::
    if context.properties.isEmpty then
      [.line nothing,
       .closing "\x7d"]
    else
      absentGuard nothing
        ++ [.opening s!"{boxType}::new(",
            .line (emptyIterator item),
            .indent]
        ++ forEach context (fun property => chainSteps property (stage property))
        ++ [.dedent,
            .closing ")",
            .closing "\x7d"]

/-- The stage of a listing: what a nested property and what a plain one contributes. -/
def stage (nested plain : Property → List String) (property : Property) : List String :=
  if property.nested.isSome then nested property else plain property

/-- The stage of a plain property that reports by `method`. -/
def plainStage (method : String) (property : Property) : List String :=
  [".filter(|delta| delta.has_changed())",
   s!".map(|delta| delta.{method}({Text.quote property.name}))"]

def allDeltasSteps (context : Context) : List Step :=
  .line "/// Every changed leaf property, nested paths flattened." ::
    iteratorSteps context "all_deltas" "DeltaInfo"
      (stage
        (fun property =>
          [".flat_map(|delta| delta.all_deltas())",
           s!".map(|info| info.with_prefix({Text.quote property.name}))"])
        (plainStage "to_delta_info"))

/-- The expression that erases the nested value of one side. -/
def erasedSide (context : Context) (side : String) (property : Property) : String :=
  s!"{context.support}::ErasedValue::new({projection side property}.cloned())"

/-- The listing of changed properties of the model itself. -/
def rootDeltasSteps (context : Context) : List Step :=
  .line "/// Changed top-level properties; a changed nested property is one entry." ::
    iteratorSteps context "root_deltas" "DeltaInfo"
      (stage
        (fun property =>
          let before := erasedSide context "self.previous" property
          let after := erasedSide context "self.current" property
          let typeName := s!"::core::any::type_name::<{property.type.spelled}>()"
          [".filter(|delta| delta.has_any_deltas())",
           s!".map(move |_| {context.support}::DeltaInfo::new({Text.quote property.name}, "
             ++ s!"{before}, {after}, {typeName}))"])
        (plainStage "to_delta_info"))

/-- The listing of all changed leaves as property changes. -/
def deltasSteps (context : Context) : List Step :=
  .line "/// Every changed leaf property as a `PropertyChange`." ::
    iteratorSteps context "deltas" "PropertyChange"
      (stage
        (fun property =>
          [".flat_map(|delta| delta.deltas())",
           s!".map(|change| change.with_prefix({Text.quote property.name}))"])
        (plainStage "to_change"))

/-! ## Implementations -/

def methodSteps (context : Context) : List Step :=
  [.opening s!"impl<'a> {context.name}<'a> \x7b"]
    ++ constructorSteps context
    ++ .blank :: sideSteps context "previous"
    ++ .blank :: sideSteps context "current"
    ++ forEach context (fun property => .blank :: accessorSteps context property)
    ++ .blank :: anyDeltasSteps context
    ++ .blank :: selectedDeltaSteps context
    ++ .blank :: allDeltasSteps context
    ++ .blank :: rootDeltasSteps context
    ++ .blank :: deltasSteps context
    ++ [.closing "\x7d"]

def traitSteps (context : Context) : List Step :=
  let listing := iteratorType s!"{context.support}::DeltaInfo"
  [.opening s!"impl {context.support}::DeltaTracker for {context.name}<'_> \x7b",
   .opening "fn has_any_deltas(&self) -> bool \x7b",
   .line s!"{context.name}::has_any_deltas(self)",
   .closing "\x7d",
   .blank,
   .opening s!"fn all_deltas(&self) -> {listing} \x7b",
   .line s!"{context.name}::all_deltas(self)",
   .closing "\x7d",
   .closing "\x7d",
   .blank,
   .opening s!"impl {context.support}::HasDelta for {context.name}<'_> \x7b",
   .opening "fn has_delta(&self) -> bool \x7b",
   .line s!"{context.name}::has_any_deltas(self)",
   .closing "\x7d",
   .closing "\x7d"]

/-- The name of the trait that compares two models. -/
def extensionName (context : Context) : String :=
  context.name ++ "Ext"

/-- A method of that trait, up to its body. -/
def comparison (context : Context) (method other : String) : String :=
  s!"fn {method}<'a>(&'a self, {other}: &'a {context.model}) -> {context.name}<'a>"

/-- The expression that builds a delta from two sides. -/
def comparisonBody (context : Context) (before after : String) : String :=
  s!"{context.name}::new({optionType}::Some({before}), {optionType}::Some({after}))"

/-- The trait that compares two models, and its implementation. -/
def extensionSteps (context : Context) : List Step :=
  let toOther := comparison context "delta_to" "current"
  let fromOther := comparison context "delta_from" "previous"
  [.line s!"/// `delta_to` / `delta_from` for [`{context.node.typeName}`]({context.model}).",
   .opening s!"{context.visibility} trait {extensionName context} \x7b",
   .line "/// Compare `self` (previous) against `current`.",
   .line s!"{toOther};",
   .blank,
   .line "/// Compare `previous` against `self` (current).",
   .line s!"{fromOther};",
   .closing "\x7d",
   .blank,
   .opening s!"impl {extensionName context} for {context.model} \x7b",
   .opening s!"{toOther} \x7b",
   .line (comparisonBody context "self" "current"),
   .closing "\x7d",
   .blank,
   .opening s!"{fromOther} \x7b",
   .line (comparisonBody context "previous" "self"),
   .closing "\x7d",
   .closing "\x7d"]

/-! ## The unit -/

/-- The layout of a node's unit. -/
def steps (node : Descriptor) (options : Options) : List Step :=
  let context := Context.of node options
  [.line s!"// @generated by deltagen from `{node.identity.path}`. Do not edit.", .blank]
    ++ structSteps context
    ++ .blank :: methodSteps context
    ++ .blank :: traitSteps context
    ++ (if node.config.convenienceFunctions then .blank :: extensionSteps context else [])

/-- The delta unit of a node.  Its text depends on the node and the options only. -/
def emit (node : Descriptor) (options : Options) : OutputUnit where
  fileName := Naming.deltaUnitFileName node.generatedName
  kind := .delta
  subject := node.identity.path
  text := render (steps node options)

end FieldDelta.DeltaUnit
