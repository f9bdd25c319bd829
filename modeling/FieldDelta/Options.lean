import FieldDelta.Naming
import FieldDelta.Text.Quoted
import FieldDelta.Text.Substitution
import FieldDelta.Unicode.Alphanumeric

/-! # Generation options

Options shape a whole compilation: how emitted units reach the support types, under which
module the manifests are mounted, and where manifests find the units they include.

* `Options` — the options, with their defaults;
* `Options.validate` — whether they can be written into generated code;
* `Options.includeArgument` — what stands in `include!(…)` for a file.
-/

namespace FieldDelta

/-- Where module manifests find the units of single types. -/
inductive IncludeRoot where
  /-- The output directory of the build, known when the manifest is compiled. -/
  | outDir
  /-- A fixed directory. -/
  | directory (dir : String)
deriving DecidableEq, Repr

/-- Compilation-wide options. -/
structure Options where
  /-- Module path by which generated code reaches the support types. -/
  supportPath : String := "crate::delta_support"
  /-- The child module under which each model module mounts its manifest. -/
  deltasModule : String := "deltas"
  /-- The support unit is provided elsewhere and must not be emitted. -/
  supportScheduled : Bool := false
  includeRoot : IncludeRoot := .outDir
deriving DecidableEq, Repr

/-! ## Validation -/

/-- An option value that cannot be used. -/
inductive InvalidOption where
  | supportPath (text : String)
  | deltasModule (text : String)
  | emptyDirectory
deriving DecidableEq, Repr

namespace InvalidOption

def option : InvalidOption → String
  | supportPath _ => "support_path"
  | deltasModule _ => "deltas_module"
  | emptyDirectory => "include_root"

def reason : InvalidOption → String
  | supportPath text => "`" ++ text ++ "` is not a module path"
  | deltasModule text => "`" ++ text ++ "` is not a plain identifier"
  | emptyDirectory => "directory is empty"

end InvalidOption

/-- An identifier that is neither a keyword nor a lone underscore. -/
def isPlainIdentifier (name : String) : Bool :=
  match name.toList with
  | [] => false
  | first :: rest =>
    (first == '_' || Unicode.isAlphabetic first)
      && rest.all (fun c => c == '_' || Unicode.isAlphanumeric c)
      && name != "_" && !Naming.isKeyword name

def isModuleSegment (segment : String) : Bool :=
  segment == "crate" || segment == "self" || segment == "super" || isPlainIdentifier segment

/-- A path without the `::` in front of it, if there is one. -/
def withoutLeadingSeparator (path : String) : String :=
  match path.toList with
  | ':' :: ':' :: rest => String.ofList rest
  | _ => path

namespace Options

/-- Checks that the options can be written into generated code.  The options are looked at in
    the order support path, deltas module, directory, and the first fault is reported. -/
def validate (options : Options) : Except InvalidOption Unit :=
  let path := withoutLeadingSeparator options.supportPath
  if path.isEmpty || !(Text.segments path).all isModuleSegment then
    .error (.supportPath options.supportPath)
  else if !isPlainIdentifier options.deltasModule then
    .error (.deltasModule options.deltasModule)
  else if options.includeRoot = .directory "" then
    .error .emptyDirectory
  else
    .ok ()

/-! ## Including files -/

/-- A directory without the slashes and backslashes at its end. -/
def trimDirectory (dir : String) : String :=
  String.ofList (Text.dropRightWhile (fun c => c == '/' || c == '\\') dir.toList)

/-- The argument of `include!` for a unit file: an expression over the output directory, or a
    quoted path in the fixed directory. -/
def includeArgument (options : Options) (fileName : String) : String :=
  match options.includeRoot with
  | .outDir => "concat!(env!(\"OUT_DIR\"), \"/" ++ fileName ++ "\")"
  | .directory dir => Text.quote (trimDirectory dir ++ "/" ++ fileName)

end Options
end FieldDelta
