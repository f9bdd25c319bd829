import FieldDelta.Discovery
import FieldDelta.Session

/-! # Build runs

A build run finds the sources of a crate, generates from them, and writes the units into the
output directory.  A file that already holds its text is not written again.  On the way it prints
directives for the build system.

* `BuildRun` — the settings of a run;
* `BuildRun.execute` — the run: its result, what it prints, and the tree it leaves behind.
-/

namespace FieldDelta

open Files

/-- The settings of a run. -/
structure BuildRun where
  /-- Directories of crates whose sources are discovered. -/
  roots : List String := []
  /-- Further files. -/
  files : List SourceFile := []
  /-- Where to write; if absent, the environment decides. -/
  outDir : Option String := none
  options : Options := {}
  /-- Print which files the run depends on. -/
  announcesSources : Bool := true
  /-- Print diagnostics. -/
  announcesDiagnostics : Bool := true
deriving DecidableEq, Repr

/-- Why a run stops.  Problems of tracked types are diagnostics and never stop one. -/
inductive RunError where
  | invalidOption (cause : InvalidOption)
  | missingOutDir
  | source (cause : SourceError)
  | write (path : String) (cause : SystemError)
deriving DecidableEq, Repr

def RunError.message : RunError → String
  | invalidOption cause => "invalid option `" ++ cause.option ++ "`: " ++ cause.reason
  | missingOutDir => "OUT_DIR is not set; call `Generator::out_dir` or run from a build script"
  | source (.missingRoot root) => "no crate root (lib.rs or main.rs) in " ++ root
  | source (.unreadable path cause) => "failed to read " ++ path ++ ": " ++ cause.message
  | write path cause => "failed to write " ++ path ++ ": " ++ cause.message

/-- What a run has done. -/
structure Report where
  /-- Files created or replaced. -/
  written : List String := []
  /-- Files left alone because they held their text already. -/
  unchanged : List String := []
  diagnostics : List Diagnostic := []
deriving DecidableEq, Repr

def Report.hasErrors (report : Report) : Bool :=
  report.diagnostics.any (·.isError)

/-- What a run leaves behind. -/
structure RunOutcome where
  result : Except RunError Report
  /-- The lines printed, even if the run has stopped. -/
  printed : List String := []
  tree : Tree

namespace BuildRun

/-! ## Reading sources -/

def sourceDirectives (run : BuildRun) (path : String) : List String :=
  if run.announcesSources then ["cargo:rerun-if-changed=" ++ path] else []

/-- Discovers the sources of several crates, and answers what is printed on the way. -/
def discoverAll (run : BuildRun) (tree : Tree) :
    List String → Except SourceError (List SourceFile) × List String
  | [] => (.ok [], [])
  | root :: rest =>
    match discover tree root with
    | .error error => (.error error, run.sourceDirectives root)
    | .ok files =>
      let (others, printed) := run.discoverAll tree rest
      (others.map (files ++ ·), run.sourceDirectives root ++ printed)

/-- Reads several files into a session, and answers what is printed on the way. -/
def readAll (run : BuildRun) (tree : Tree) (session : Session) :
    List SourceFile → Except SourceError Session × List String
  | [] => (.ok session, [])
  | file :: rest =>
    match tree.readText file.path with
    | .error cause => (.error (.unreadable file.path cause), [])
    | .ok text =>
      let (session, printed) :=
        run.readAll tree (session.setSource file.modulePath file.path text) rest
      (session, run.sourceDirectives file.path ++ printed)

/-- The session with all sources of the run, and what is printed on the way. -/
def readSources (run : BuildRun) (tree : Tree) : Except SourceError Session × List String :=
  match run.discoverAll tree run.roots with
  | (.error error, printed) => (.error error, printed)
  | (.ok found, printed) =>
    let (session, more) := run.readAll tree (.new run.options) (found ++ run.files)
    (session, printed ++ more)

/-! ## Writing units -/

def holds (tree : Tree) (path text : String) : Bool :=
  match tree.readText path with
  | .ok found => found == text
  | .error _ => false

/-- Writes units into a directory and adds what was done to a report. -/
def writeUnits (outDir : String) (tree : Tree) (report : Report) :
    List OutputUnit → Except RunError Report × Tree
  | [] => (.ok report, tree)
  | unit :: rest =>
    let path := Path.join outDir unit.fileName
    if holds tree path unit.text then
      writeUnits outDir tree { report with unchanged := report.unchanged ++ [path] } rest
    else
      match tree.writeText path unit.text with
      | .error cause => (.error (.write path cause), tree)
      | .ok tree => writeUnits outDir tree { report with written := report.written ++ [path] } rest

/-- Makes the output directory and writes the units of a generation into it. -/
def writeGeneration (outDir : String) (tree : Tree) (generation : Generation) :
    Except RunError Report × Tree :=
  match tree.makeDirectories outDir with
  | (.error cause, tree) => (.error (.write outDir cause), tree)
  | (.ok (), tree) =>
    writeUnits outDir tree { diagnostics := generation.diagnostics } generation.units

def diagnosticDirectives (run : BuildRun) (diagnostics : List Diagnostic) : List String :=
  if run.announcesDiagnostics then diagnostics.map ("cargo:warning=" ++ ·.toLine) else []

/-! ## Running -/

/-- The checks that come before anything is read: the options, then the output directory, for
    which `fallback` stands in. -/
def checkSettings (run : BuildRun) (fallback : Option String) : Except RunError String :=
  match run.options.validate with
  | .error cause => .error (.invalidOption cause)
  | .ok () =>
    match run.outDir.or fallback with
    | some outDir => .ok outDir
    | none => .error .missingOutDir

/-- Runs on a tree.  `fallback` is the output directory that the environment names. -/
def execute (run : BuildRun) (fallback : Option String) (tree : Tree) : RunOutcome :=
  match run.checkSettings fallback with
  | .error error => { result := .error error, tree := tree }
  | .ok outDir =>
    match run.readSources tree with
    | (.error error, printed) =>
      { result := .error (.source error), printed := printed, tree := tree }
    | (.ok session, printed) =>
      let generation := session.generate.1
      match writeGeneration outDir tree generation with
      | (.error error, tree) => { result := .error error, printed := printed, tree := tree }
      | (.ok report, tree) =>
        { result := .ok report
          printed := printed ++ run.diagnosticDirectives generation.diagnostics
          tree := tree }

end BuildRun
end FieldDelta
