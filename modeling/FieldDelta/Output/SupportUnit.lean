import FieldDelta.Layout
import FieldDelta.Output

/-! # The support unit

The support unit holds the types that all delta units refer to.  It is the same for every
compilation; the user mounts it at the support path.
-/

namespace FieldDelta.SupportUnit

open Layout

def openingLines : List String :=
  ["// Shared support types for generated delta types.",
   "//",
   "// This file is compiled as part of `deltagen_support` and emitted verbatim as",
   "// `DeltaSupport.g.rs`. It must stay self-contained: no crate-relative paths,",
   "// no inner attributes, `std` only.",
   "",
   "use std::any::Any;",
   "use std::fmt;",
   "use std::rc::Rc;",
   ""]

def erasedValueLines : List String :=
  ["/// Object-safe view of a comparable, debuggable value.",
   "trait ErasedCompare: Any + fmt::Debug \x7b",
   "    fn as_any(&self) -> &dyn Any;",
   "    fn eq_erased(&self, other: &dyn ErasedCompare) -> bool;",
   "\x7d",
   "",
   "impl<T> ErasedCompare for T",
   "where",
   "    T: Any + fmt::Debug + PartialEq,",
   "\x7b",
   "    fn as_any(&self) -> &dyn Any \x7b",
   "        self",
   "    \x7d",
   "",
   "    fn eq_erased(&self, other: &dyn ErasedCompare) -> bool \x7b",
   "        other",
   "            .as_any()",
   "            .downcast_ref::<T>()",
   "            .is_some_and(|other| self == other)",
   "    \x7d",
   "\x7d",
   "",
   "/// A property value with its static type erased.",
   "///",
   "/// Two erased values are equal when they hold the same type and that type's",
   "/// `PartialEq` says so.",
   "#[derive(Clone)]",
   "pub struct ErasedValue(Rc<dyn ErasedCompare>);",
   "",
   "impl ErasedValue \x7b",
   "    pub fn new<T>(value: T) -> Self",
   "    where",
   "        T: Any + fmt::Debug + PartialEq,",
   "    \x7b",
   "        ErasedValue(Rc::new(value))",
   "    \x7d",
   "",
   "    /// Borrow the value as `T`, if that is what it holds.",
   "    pub fn downcast_ref<T: Any>(&self) -> Option<&T> \x7b",
   "        self.0.as_any().downcast_ref::<T>()",
   "    \x7d",
   "\x7d",
   "",
   "impl PartialEq for ErasedValue \x7b",
   "    fn eq(&self, other: &Self) -> bool \x7b",
   "        self.0.eq_erased(&*other.0)",
   "    \x7d",
   "\x7d",
   "",
   "impl fmt::Debug for ErasedValue \x7b",
   "    fn fmt(&self, f: &mut fmt::Formatter<'_>) -> fmt::Result \x7b",
   "        fmt::Debug::fmt(&*self.0, f)",
   "    \x7d",
   "\x7d",
   ""]

def propertyDeltaLines : List String :=
  ["/// The previous and current value of one property.",
   "///",
   "/// Immutable; `has_changed` is fixed at construction using `T`'s equality.",
   "#[derive(Clone, Debug, PartialEq, Eq)]",
   "pub struct PropertyDelta<T> \x7b",
   "    previous: T,",
   "    current: T,",
   "    has_changed: bool,",
   "\x7d",
   "",
   "impl<T: PartialEq> PropertyDelta<T> \x7b",
   "    pub fn new(previous: T, current: T) -> Self \x7b",
   "        let has_changed = previous != current;",
   "        PropertyDelta \x7b",
   "            previous,",
   "            current,",
   "            has_changed,",
   "        \x7d",
   "    \x7d",
   "\x7d",
   "",
   "impl<T> PropertyDelta<T> \x7b",
   "    pub fn previous(&self) -> &T \x7b",
   "        &self.previous",
   "    \x7d",
   "",
   "    pub fn current(&self) -> &T \x7b",
   "        &self.current",
   "    \x7d",
   "",
   "    pub fn has_changed(&self) -> bool \x7b",
   "        self.has_changed",
   "    \x7d",
   "\x7d",
   "",
   "impl<T> PropertyDelta<T>",
   "where",
   "    T: Clone + fmt::Debug + PartialEq + 'static,",
   "\x7b",
   "    /// Project into a `PropertyChange` reported at `path`.",
   "    pub fn to_change(&self, path: &str) -> PropertyChange \x7b",
   "        PropertyChange::new(",
   "            path,",
   "            ErasedValue::new(self.previous.clone()),",
   "            ErasedValue::new(self.current.clone()),",
   "        )",
   "    \x7d",
   "",
   "    /// Project into a `DeltaInfo` reported at `path`.",
   "    pub fn to_delta_info(&self, path: &str) -> DeltaInfo \x7b",
   "        DeltaInfo::new(",
   "            path,",
   "            ErasedValue::new(self.previous.clone()),",
   "            ErasedValue::new(self.current.clone()),",
   "            std::any::type_name::<T>(),",
   "        )",
   "    \x7d",
   "\x7d",
   ""]

def propertyChangeLines : List String :=
  ["/// A changed property, addressed by a dotted path from the compared root.",
   "#[derive(Clone, Debug, PartialEq)]",
   "pub struct PropertyChange \x7b",
   "    path: String,",
   "    previous_value: ErasedValue,",
   "    current_value: ErasedValue,",
   "\x7d",
   "",
   "impl PropertyChange \x7b",
   "    pub fn new(path: &str, previous_value: ErasedValue, current_value: ErasedValue) -> Self \x7b",
   "        PropertyChange \x7b",
   "            path: path.to_string(),",
   "            previous_value,",
   "            current_value,",
   "        \x7d",
   "    \x7d",
   "",
   "    pub fn path(&self) -> &str \x7b",
   "        &self.path",
   "    \x7d",
   "",
   "    pub fn previous_value(&self) -> &ErasedValue \x7b",
   "        &self.previous_value",
   "    \x7d",
   "",
   "    pub fn current_value(&self) -> &ErasedValue \x7b",
   "        &self.current_value",
   "    \x7d",
   "",
   "    /// Re-root the change under `prefix` (`value` becomes `child.value`).",
   "    #[must_use]",
   "    pub fn with_prefix(mut self, prefix: &str) -> Self \x7b",
   "        self.path = format!(\"\x7bprefix\x7d.\x7b\x7d\", self.path);",
   "        self",
   "    \x7d",
   "\x7d",
   "",
   "impl fmt::Display for PropertyChange \x7b",
   "    fn fmt(&self, f: &mut fmt::Formatter<'_>) -> fmt::Result \x7b",
   "        write!(",
   "            f,",
   "            \"\x7b\x7d: \x7b:?\x7d -> \x7b:?\x7d\",",
   "            self.path, self.previous_value, self.current_value",
   "        )",
   "    \x7d",
   "\x7d",
   ""]

def deltaInfoLines : List String :=
  ["/// One entry of a whole-object change listing.",
   "///",
   "/// Coarser than `PropertyChange`: it also records the property's declared",
   "/// type, and nested objects may be reported as a single entry.",
   "#[derive(Clone, Debug, PartialEq)]",
   "pub struct DeltaInfo \x7b",
   "    path: String,",
   "    previous_value: ErasedValue,",
   "    current_value: ErasedValue,",
   "    declared_type: &'static str,",
   "\x7d",
   "",
   "impl DeltaInfo \x7b",
   "    pub fn new(",
   "        path: &str,",
   "        previous_value: ErasedValue,",
   "        current_value: ErasedValue,",
   "        declared_type: &'static str,",
   "    ) -> Self \x7b",
   "        DeltaInfo \x7b",
   "            path: path.to_string(),",
   "            previous_value,",
   "            current_value,",
   "            declared_type,",
   "        \x7d",
   "    \x7d",
   "",
   "    pub fn path(&self) -> &str \x7b",
   "        &self.path",
   "    \x7d",
   "",
   "    pub fn previous_value(&self) -> &ErasedValue \x7b",
   "        &self.previous_value",
   "    \x7d",
   "",
   "    pub fn current_value(&self) -> &ErasedValue \x7b",
   "        &self.current_value",
   "    \x7d",
   "",
   "    /// `std::any::type_name` of the property's declared type.",
   "    pub fn declared_type(&self) -> &'static str \x7b",
   "        self.declared_type",
   "    \x7d",
   "",
   "    /// Re-root the entry under `prefix`.",
   "    #[must_use]",
   "    pub fn with_prefix(mut self, prefix: &str) -> Self \x7b",
   "        self.path = format!(\"\x7bprefix\x7d.\x7b\x7d\", self.path);",
   "        self",
   "    \x7d",
   "\x7d",
   "",
   "impl fmt::Display for DeltaInfo \x7b",
   "    fn fmt(&self, f: &mut fmt::Formatter<'_>) -> fmt::Result \x7b",
   "        write!(",
   "            f,",
   "            \"\x7b\x7d (\x7b\x7d): \x7b:?\x7d -> \x7b:?\x7d\",",
   "            self.path, self.declared_type, self.previous_value, self.current_value",
   "        )",
   "    \x7d",
   "\x7d",
   ""]

def capabilitiesLines : List String :=
  ["/// Capability every generated delta type provides.",
   "pub trait DeltaTracker \x7b",
   "    /// True if any tracked property, at any depth, differs.",
   "    fn has_any_deltas(&self) -> bool;",
   "",
   "    /// Every changed leaf property, nested paths flattened.",
   "    ///",
   "    /// The iterator is lazy and can be obtained again to restart.",
   "    fn all_deltas(&self) -> Box<dyn Iterator<Item = DeltaInfo> + '_>;",
   "\x7d",
   "",
   "/// Target of a `has_delta_in` selector.",
   "///",
   "/// Implemented by `PropertyDelta<T>` (its `has_changed`) and by every",
   "/// generated delta type (its `has_any_deltas`).",
   "pub trait HasDelta \x7b",
   "    fn has_delta(&self) -> bool;",
   "\x7d",
   "",
   "impl<T> HasDelta for PropertyDelta<T> \x7b",
   "    fn has_delta(&self) -> bool \x7b",
   "        self.has_changed",
   "    \x7d",
   "\x7d"]

def lines : List String :=
  openingLines ++ erasedValueLines ++ propertyDeltaLines ++ propertyChangeLines ++ deltaInfoLines
    ++ capabilitiesLines

def steps : List Step :=
  .line "// @generated by deltagen. Do not edit." :: .blank :: lines.map .line

def fileName : String := "DeltaSupport.g.rs"

def emit : OutputUnit where
  fileName := fileName
  kind := .support
  subject := "support"
  text := render steps

end FieldDelta.SupportUnit
