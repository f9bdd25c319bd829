import FieldDelta.Layout
import FieldDelta.Options
import FieldDelta.Output

/-! # Manifests

A manifest is mounted inside a model module.  It brings everything the module sees into scope,
so that delta units can name property types as they are written there, and includes the units
of the module's types.
-/

namespace FieldDelta.Manifest

open Layout

def includeLine (options : Options) (fileName : String) : Step :=
  .line s!"include!({options.includeArgument fileName});"

/-- The lines of the manifest of a module that includes the given files. -/
def steps (modulePath : String) (files : List String) (options : Options) : List Step :=
  let mount := options.includeArgument (Naming.manifestFileName modulePath)
  [.line s!"// @generated by deltagen for module `{modulePath}`. Do not edit.",
   .line "//",
   .line s!"// Mount inside `{modulePath}` as:",
   .line s!"//     pub mod {options.deltasModule} \x7b include!({mount}); \x7d",
   .blank,
   .line "#[allow(unused_imports)]",
   .line "use super::*;",
   .blank]
    ++ files.map (includeLine options)

/-- The manifest of a module that includes the given files, in their order. -/
def emit (modulePath : String) (files : List String) (options : Options) : OutputUnit where
  fileName := Naming.manifestFileName modulePath
  kind := .manifest
  subject := modulePath
  text := render (steps modulePath files options)

end FieldDelta.Manifest
