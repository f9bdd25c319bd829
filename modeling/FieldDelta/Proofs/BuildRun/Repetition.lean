import FieldDelta.Proofs.BuildRun
import FieldDelta.Proofs.Discovery.Probes
import FieldDelta.Proofs.Files.Extending
import FieldDelta.Proofs.Generation.IncludedFiles

/-! # Running again

A run writes the units that are not there yet.  If their paths lead to different files, then all
of them are there when it ends; and if it has not changed what its sources were read from, the same
run on the tree that it has left finds the same sources and has nothing to write.

* `BuildRun.consulted` — the paths that a run looks at before it writes;
* `BuildRun.writeUnits_extends`, `BuildRun.writeUnits_holds` — what writing the units leaves;
* `BuildRun.execute_again` — the second run.
-/

namespace FieldDelta

open Files

namespace BuildRun

variable {run : BuildRun} {outDir : String} {tree before after : Tree} {report final : Report}
  {units : List OutputUnit}

/-! ## Reading again -/

/-- The paths that a run looks at before it writes: those that discovery looks at, and those of the
    files that it is given. -/
def consulted (run : BuildRun) (tree : Tree) : List String :=
  run.roots.flatMap (FieldDelta.consulted tree) ++ run.files.map (·.path)

theorem discoverAll_of_agrees {roots : List String} {found : List SourceFile}
    (h_agrees : Agrees before after (roots.flatMap (FieldDelta.consulted before)))
    (h_found : (run.discoverAll before roots).1 = .ok found) :
    run.discoverAll after roots = run.discoverAll before roots ∧
      ∀ file ∈ found, file.path ∈ roots.flatMap (FieldDelta.consulted before) := by
  induction roots generalizing found with
  | nil =>
    cases h_found
    exact ⟨rfl, nofun⟩
  | cons root rest ih =>
    rw [List.flatMap_cons] at h_agrees ⊢
    obtain ⟨h_first, h_rest⟩ := List.forall_mem_append.mp h_agrees
    rw [discoverAll] at h_found
    cases h_root : discover before root with
    | error cause =>
      rw [h_root] at h_found
      cases h_found
    | ok files =>
      obtain ⟨h_same, h_files⟩ := discover_of_agrees h_first h_root
      cases h_others : (run.discoverAll before rest).1 with
      | error cause =>
        simp [h_root, h_others, Except.map] at h_found
      | ok others =>
        obtain ⟨h_rest_same, h_rest_files⟩ := ih h_rest h_others
        have h_all : files ++ others = found := by
          simpa [h_root, h_others, Except.map] using h_found
        refine ⟨by rw [discoverAll, discoverAll, h_same, h_root, h_rest_same], ?_⟩
        rw [← h_all]
        intro file h_file
        rcases List.mem_append.mp h_file with h_file | h_file
        · exact List.mem_append_left _ (h_files file h_file)
        · exact List.mem_append_right _ (h_rest_files file h_file)

theorem readAll_of_agrees {files : List SourceFile} {session read : Session}
    (h_agrees : Agrees before after (files.map (·.path)))
    (h_read : (run.readAll before session files).1 = .ok read) :
    run.readAll after session files = run.readAll before session files := by
  induction files generalizing session with
  | nil => rfl
  | cons file rest ih =>
    obtain ⟨h_file, h_rest⟩ := List.forall_mem_cons.mp h_agrees
    rw [readAll] at h_read ⊢
    cases h_text : before.readText file.path with
    | error cause =>
      rw [h_text] at h_read
      cases h_read
    | ok text =>
      simp only [h_text] at h_read
      simp only [readAll, h_text, h_file.2 text h_text, ih h_rest h_read]

/-- Where the trees agree on what a run looks at, it reads the same sources from both. -/
theorem readSources_of_agrees {session : Session} {printed : List String}
    (h_agrees : Agrees before after (run.consulted before))
    (h_read : run.readSources before = (.ok session, printed)) :
    run.readSources after = (.ok session, printed) := by
  obtain ⟨h_roots, h_files⟩ := List.forall_mem_append.mp h_agrees
  rw [readSources] at h_read
  rcases h_discover : run.discoverAll before run.roots with ⟨_ | found, directives⟩
  · rw [h_discover] at h_read
    cases h_read
  · obtain ⟨h_same, h_paths⟩ := discoverAll_of_agrees h_roots (congrArg Prod.fst h_discover)
    have h_read_paths : Agrees before after ((found ++ run.files).map (·.path)) := by
      rw [List.map_append]
      apply Agrees.append ?_ h_files
      intro path h_path
      obtain ⟨file, h_file, rfl⟩ := List.mem_map.mp h_path
      exact h_roots _ (h_paths file h_file)
    rw [h_discover] at h_read
    have h_session : (run.readAll before (.new run.options) (found ++ run.files)).1 = .ok session :=
      congrArg Prod.fst h_read
    rw [readSources, h_same, h_discover]
    simp only [readAll_of_agrees h_read_paths h_session]
    exact h_read

/-! ## Writing -/

/-- A unit's place: some unit's path leads there in the end. -/
def IsOutput (outDir : String) (after : Tree) (units : List OutputUnit) (location : Location) :
    Prop :=
  ∃ unit ∈ units, after.locate (unitPath outDir unit) = .ok location

instance (location : Location) : Decidable (IsOutput outDir after units location) :=
  inferInstanceAs (Decidable (∃ _ ∈ _, _))

/-- No unit's path ends with a slash. -/
def AreFiles (outDir : String) (units : List OutputUnit) : Prop :=
  ∀ unit ∈ units, Tree.endingNames (unitPath outDir unit) = []

/-- One step of writing: the unit is there behind it, and nothing else has changed. -/
theorem writeUnits_step {unit : OutputUnit} {rest : List OutputUnit}
    (h_ending : Tree.endingNames (unitPath outDir unit) = [])
    (h_write : writeUnits outDir tree report (unit :: rest) = (.ok final, after)) :
    ∃ middle report' location, writeUnits outDir middle report' rest = (.ok final, after) ∧
      tree.Extends middle (· = location) ∧
      middle.locate (unitPath outDir unit) = .ok location ∧
      middle.node? location = some (.file (.text unit.text)) := by
  obtain ⟨middle, report', h_rest, h_middle, -⟩ := writeUnits_cons h_write
  rcases h_middle with ⟨rfl, h_read⟩ | h_unit
  · obtain ⟨location, h_locate, h_node⟩ := Tree.readText_eq_ok.mp h_read
    exact ⟨middle, report', location, h_rest, .refl _ _, h_locate, h_node⟩
  · obtain ⟨parent, name, h_ends, h_free, rfl⟩ := Tree.writeText_eq_ok h_unit
    exact ⟨_, report', parent ++ [name], h_rest, Tree.extends_put_file _ h_free,
      h_ends.locate_put _ h_free (.inl h_ending), Tree.node?_put tree _ (by simp) _⟩

/-- Only the places of units change while they are written. -/
theorem writeUnits_extends (h_files : AreFiles outDir units)
    (h_write : writeUnits outDir tree report units = (.ok final, after)) :
    tree.Extends after (IsOutput outDir after units) := by
  induction units generalizing tree report with
  | nil =>
    cases h_write
    exact .refl _ _
  | cons unit rest ih =>
    obtain ⟨h_unit, h_rest⟩ := List.forall_mem_cons.mp h_files
    obtain ⟨middle, _, location, h_write, h_first, h_locate, -⟩ := writeUnits_step h_unit h_write
    have h_behind := ih h_rest h_write
    apply Tree.Extends.trans (h_first.mono ?_) (h_behind.mono ?_)
    · rintro _ rfl
      exact ⟨unit, .head _, h_behind.grows.locate h_locate⟩
    · rintro other ⟨unit', h_mem, h_other⟩
      exact ⟨unit', .tail _ h_mem, h_other⟩

/-- If no two units lead to one file, all of them are there in the end. -/
theorem writeUnits_holds (h_files : AreFiles outDir units)
    (h_apart : units.Pairwise fun a b =>
      after.locate (unitPath outDir a) ≠ after.locate (unitPath outDir b))
    (h_write : writeUnits outDir tree report units = (.ok final, after)) :
    ∀ unit ∈ units, after.readText (unitPath outDir unit) = .ok unit.text := by
  induction units generalizing tree report with
  | nil => nofun
  | cons unit rest ih =>
    obtain ⟨h_unit, h_rest⟩ := List.forall_mem_cons.mp h_files
    obtain ⟨h_fresh, h_apart⟩ := List.pairwise_cons.mp h_apart
    obtain ⟨middle, _, location, h_write, -, h_locate, h_node⟩ := writeUnits_step h_unit h_write
    have h_behind := writeUnits_extends h_rest h_write
    have h_there := h_behind.grows.locate h_locate
    refine List.forall_mem_cons.mpr ⟨?_, ih h_rest h_apart h_write⟩
    -- The units behind it lead elsewhere, so they spare it.
    have h_spared : ¬ IsOutput outDir after rest location := by
      rintro ⟨other, h_other, h_same⟩
      exact h_fresh other h_other (h_there.trans h_same.symm)
    have h_kept := h_behind.node_eq h_spared (.inl (by simp [h_node]))
    exact Tree.readText_eq_ok.mpr ⟨location, h_there, h_kept.trans h_node⟩

/-- A report lists every unit as often as it is written. -/
theorem files_writeUnits (h_write : writeUnits outDir tree report units = (.ok final, after)) :
    final.files.Perm (report.files ++ units.map (unitPath outDir)) := by
  induction units generalizing tree report with
  | nil =>
    cases h_write
    simp
  | cons unit rest ih =>
    rw [writeUnits_eq] at h_write
    split at h_write
    next =>
      refine (ih h_write).trans ?_
      simp [Report.files]
    next =>
      split at h_write
      next => cases h_write
      next =>
        refine (ih h_write).trans ?_
        simp only [Report.files, List.map_cons, List.append_assoc, List.singleton_append]
        exact List.perm_middle.symm.append_left _

/-- Units that are there are left alone. -/
theorem writeUnits_of_holds
    (h_holds : ∀ unit ∈ units, tree.readText (unitPath outDir unit) = .ok unit.text) :
    writeUnits outDir tree report units =
      (.ok { report with unchanged := report.unchanged ++ units.map (unitPath outDir) }, tree) := by
  induction units generalizing report with
  | nil =>
    rw [List.map_nil, List.append_nil]
    rfl
  | cons unit rest ih =>
    obtain ⟨h_unit, h_rest⟩ := List.forall_mem_cons.mp h_holds
    have h_there : holds tree (unitPath outDir unit) unit.text = true := by
      simp [holds, h_unit]
    rw [writeUnits_eq, if_pos h_there, ih h_rest]
    simp

/-- Paths are only added to a report. -/
theorem written_writeUnits (h_write : writeUnits outDir tree report units = (.ok final, after)) :
    report.written <+: final.written := by
  induction units generalizing tree report with
  | nil =>
    cases h_write
    exact List.prefix_rfl
  | cons unit rest ih =>
    rw [writeUnits_eq] at h_write
    split at h_write
    next =>
      have h_rest := ih h_write
      exact h_rest
    next =>
      split at h_write
      next => cases h_write
      next => exact (List.prefix_append _ _).trans (ih h_write)

/-- Where nothing is written, everything has been there. -/
theorem holds_of_written (h_write : writeUnits outDir tree report units = (.ok final, after))
    (h_none : final.written = report.written) :
    ∀ unit ∈ units, tree.readText (unitPath outDir unit) = .ok unit.text := by
  induction units generalizing report with
  | nil => nofun
  | cons unit rest ih =>
    rw [writeUnits_eq] at h_write
    split at h_write
    next h_holds =>
      have h_rest := ih h_write h_none
      refine List.forall_mem_cons.mpr ⟨?_, h_rest⟩
      unfold holds at h_holds
      split at h_holds
      next text h_text => exact h_text.trans (congrArg _ (beq_iff_eq.mp h_holds))
      next => cases h_holds
    next =>
      split at h_write
      next => cases h_write
      next =>
        have h_length := (written_writeUnits h_write).length_le
        simp [h_none] at h_length

/-- Writing goes on behind what was written. -/
theorem exists_writeUnits_concat {unit : OutputUnit}
    (h_front : writeUnits outDir tree report units = (.ok final, after))
    (h_last : (after.writeText (unitPath outDir unit) unit.text).toOption.isSome) :
    ∃ report', (writeUnits outDir tree report (units ++ [unit])).1 = .ok report' := by
  induction units generalizing tree report with
  | nil =>
    cases h_front
    rw [List.nil_append, writeUnits_eq]
    split
    · exact ⟨_, rfl⟩
    · split
      next h_error => simp [h_error, Except.toOption] at h_last
      next => exact ⟨_, rfl⟩
  | cons first rest ih =>
    rw [List.cons_append, writeUnits_eq]
    rw [writeUnits_eq] at h_front
    split at h_front
    next h_holds =>
      rw [if_pos h_holds]
      exact ih h_front
    next h_holds =>
      rw [if_neg h_holds]
      split at h_front
      next => cases h_front
      next => exact ih h_front

/-! ## The paths of units -/

theorem endingNames_unitPath {unit : OutputUnit} (front tail : String)
    (h_name : unit.fileName = front ++ tail) (h_slash : '/' ∉ tail.toList) (h_tail : tail ≠ "") :
    Tree.endingNames (unitPath outDir unit) = [] := by
  obtain ⟨name, h_last⟩ := Path.exists_namesLast_join outDir front tail h_slash h_tail
  rw [unitPath, h_name]
  exact h_last.endingNames

/-- Every unit of a generation is a file by its name. -/
theorem areFiles_generate (outDir : String) (compilation : Compilation) :
    AreFiles outDir compilation.generate.units := by
  intro unit h_unit
  rcases List.mem_append.mp h_unit with h_unit | h_unit
  · rcases List.mem_append.mp h_unit with h_unit | h_unit
    · unfold Options.supportUnit? at h_unit
      split at h_unit
      · cases h_unit
      · obtain rfl := List.mem_singleton.mp h_unit
        exact endingNames_unitPath "" _ String.empty_append.symm (by decide) (by decide)
    · obtain ⟨node, -, rfl⟩ := List.mem_map.mp h_unit
      exact endingNames_unitPath _ ".g.rs" rfl (by decide) (by decide)
  · obtain ⟨modulePath, -, rfl⟩ := List.mem_map.mp h_unit
    exact endingNames_unitPath _ ".deltas.rs" rfl (by decide) (by decide)

/-! ## Running again -/

variable {fallback : Option String} {session : Session} {printed : List String}

/-- What a run generates is computed from the sources that it has read. -/
theorem fst_generate_of_readSources (h_read : run.readSources tree = (.ok session, printed)) :
    session.generate.1 = session.store.compilation.generate := by
  obtain ⟨_, sources, -, -, rfl⟩ := readSources_eq_ok h_read
  obtain ⟨h_sound, -⟩ := Session.recorded_calls (.new run.options)
    (.initial run.options) (.initial run.options) (sources.map Session.Call.ofSource)
  exact Session.fst_generate h_sound

/-- A run that has read its sources ends as writing their generation does. -/
theorem execute_of_write (h_settings : run.checkSettings fallback = .ok outDir)
    (h_read : run.readSources tree = (.ok session, printed))
    (h_write : writeGeneration outDir tree session.generate.1 = (.ok report, after)) :
    run.execute fallback tree =
      { result := .ok report
        printed := printed ++ run.diagnosticDirectives session.generate.1.diagnostics
        tree := after } := by
  simp only [execute, h_settings, h_read, h_write]

theorem writeGeneration_of_execute (h_settings : run.checkSettings fallback = .ok outDir)
    (h_read : run.readSources tree = (.ok session, printed))
    (h_run : (run.execute fallback tree).result = .ok report) :
    writeGeneration outDir tree session.generate.1 =
      (.ok report, (run.execute fallback tree).tree) := by
  rcases h_write : writeGeneration outDir tree session.generate.1 with ⟨error | report', after⟩
  · rw [result_execute h_settings h_read, h_write] at h_run
    cases h_run
  · rw [execute_of_write h_settings h_read h_write] at h_run ⊢
    cases h_run
    rfl

theorem writeGeneration_eq_ok {generation : Generation}
    (h_write : writeGeneration outDir tree generation = (.ok report, after)) :
    ∃ middle, tree.makeDirectories outDir = (.ok (), middle) ∧
      writeUnits outDir middle { diagnostics := generation.diagnostics } generation.units =
        (.ok report, after) := by
  unfold writeGeneration at h_write
  split at h_write
  next => cases h_write
  next middle h_make => exact ⟨middle, h_make, h_write⟩

/-- A crate with one type, and a module that has no file. -/
def settledRun : BuildRun where
  roots := ["src"]
  outDir := some "out"

def settledTree : Tree where
  entries := [
    (["src"], .directory),
    (["src", "lib.rs"], .file (.text "#[derive(TrackDelta)] pub struct A; mod b;"))]

theorem readSources_settledRun :
    settledRun.readSources settledTree =
      (.ok ((Session.new {}).setSource "crate" "src/lib.rs"
          "#[derive(TrackDelta)] pub struct A; mod b;"),
        ["cargo:rerun-if-changed=src", "cargo:rerun-if-changed=src/lib.rs"]) := by
  have h_lib : settledTree.readText "src/lib.rs" =
      .ok "#[derive(TrackDelta)] pub struct A; mod b;" := by decide +kernel
  have h_discover : discover settledTree "src" = .ok [⟨"crate", "src/lib.rs"⟩] :=
    discover_of_one (by decide +kernel) (by decide +kernel)
  have h_discoverAll : settledRun.discoverAll settledTree settledRun.roots =
      (.ok [⟨"crate", "src/lib.rs"⟩], ["cargo:rerun-if-changed=src"]) := by
    simp only [settledRun, discoverAll, h_discover]
    rfl
  rw [readSources, h_discoverAll]
  simp only [settledRun, List.append_nil, readAll, h_lib]
  rfl

/-- A run that has done all there is to do: its units hold their texts in the end, and running
    again writes nothing. -/
def Settles (run : BuildRun) (outDir : String) (tree : Tree) (units : List OutputUnit) : Prop :=
  let after := (run.execute none tree).tree
  (∀ unit ∈ units, after.readText (unitPath outDir unit) = .ok unit.text) ∧
    ∃ second, (run.execute none after).result = .ok second ∧ second.written = []

/-- The units have different names, and none of their paths is one that the run looks at. -/
structure TellsApart (run : BuildRun) (outDir : String) (tree : Tree) (units : List OutputUnit) :
    Prop where
  names : (units.map (·.fileName)).Nodup
  paths : ∀ path ∈ run.consulted tree, ∀ unit ∈ units,
    Path.same path (unitPath outDir unit) = false

/-- A successful run that does not settle although it tells its units apart. -/
def StaysUnsettled (run : BuildRun) (outDir : String) (tree : Tree) : Prop :=
  ∃ session printed report, run.checkSettings none = .ok outDir ∧
    run.readSources tree = (.ok session, printed) ∧
    (run.execute none tree).result = .ok report ∧
    run.TellsApart outDir tree session.generate.1.units ∧
    ¬ run.Settles outDir tree session.generate.1.units

/-- In the end all units of a run that writes nothing hold their texts. -/
theorem holds_of_execute (h_settings : run.checkSettings fallback = .ok outDir)
    (h_read : run.readSources tree = (.ok session, printed))
    (h_run : (run.execute fallback tree).result = .ok report) (h_none : report.written = []) :
    ∀ unit ∈ session.generate.1.units,
      (tree.makeDirectories outDir).2.readText (unitPath outDir unit) = .ok unit.text := by
  obtain ⟨middle, h_make, h_units⟩ :=
    writeGeneration_eq_ok (writeGeneration_of_execute h_settings h_read h_run)
  rw [h_make]
  exact holds_of_written h_units h_none

/-- A module that is declared behind the output directory, which is not there at first. -/
def revealingRun : BuildRun where
  roots := ["src"]
  outDir := some "src/out"

def revealedTree : Tree where
  entries := [
    (["src"], .directory),
    (["src", "lib.rs"], .file (.text
      "#[derive(TrackDelta)] pub struct A; #[path = \"out/../b.rs\"] mod b;")),
    (["src", "b.rs"], .file (.text "#[derive(TrackDelta)] pub struct B;"))]

theorem readSources_revealingRun :
    revealingRun.readSources revealedTree =
      (.ok ((Session.new {}).setSource "crate" "src/lib.rs"
          "#[derive(TrackDelta)] pub struct A; #[path = \"out/../b.rs\"] mod b;"),
        ["cargo:rerun-if-changed=src", "cargo:rerun-if-changed=src/lib.rs"]) := by
  have h_lib : revealedTree.readText "src/lib.rs" =
      .ok "#[derive(TrackDelta)] pub struct A; #[path = \"out/../b.rs\"] mod b;" := by
    decide +kernel
  have h_discover : discover revealedTree "src" = .ok [⟨"crate", "src/lib.rs"⟩] :=
    discover_of_one (by decide +kernel) (by decide +kernel)
  have h_discoverAll : revealingRun.discoverAll revealedTree revealingRun.roots =
      (.ok [⟨"crate", "src/lib.rs"⟩], ["cargo:rerun-if-changed=src"]) := by
    simp only [revealingRun, discoverAll, h_discover]
    rfl
  rw [readSources, h_discoverAll]
  simp only [revealingRun, List.append_nil, readAll, h_lib]
  rfl

/-- What the second run reads: by then the path leads to the module. -/
theorem readSources_again_revealingRun :
    revealingRun.readSources (revealingRun.execute none revealedTree).tree =
      (.ok (((Session.new {}).setSource "crate" "src/lib.rs"
          "#[derive(TrackDelta)] pub struct A; #[path = \"out/../b.rs\"] mod b;").setSource
            "crate::b" "src/out/../b.rs" "#[derive(TrackDelta)] pub struct B;"),
        ["cargo:rerun-if-changed=src", "cargo:rerun-if-changed=src/lib.rs",
          "cargo:rerun-if-changed=src/out/../b.rs"]) := by
  have h_after :
      let after := (revealingRun.execute none revealedTree).tree
      rootFile? after "src" = some "src/lib.rs" ∧
      explore after pathCount []
        [{ modulePath := "crate", path := "src/lib.rs", childrenDir := "src" }] =
          .ok [⟨"crate", "src/lib.rs"⟩, ⟨"crate::b", "src/out/../b.rs"⟩] ∧
      after.readText "src/lib.rs" =
        .ok "#[derive(TrackDelta)] pub struct A; #[path = \"out/../b.rs\"] mod b;" ∧
      after.readText "src/out/../b.rs" = .ok "#[derive(TrackDelta)] pub struct B;" := by
    decide +kernel
  generalize (revealingRun.execute none revealedTree).tree = after at h_after ⊢
  obtain ⟨h_root, h_explore, h_lib, h_module⟩ := h_after
  have h_discover : discover after "src" =
      .ok [⟨"crate", "src/lib.rs"⟩, ⟨"crate::b", "src/out/../b.rs"⟩] := by
    rw [discover, h_root]
    simp only [h_explore]
    exact congrArg Except.ok (List.mergeSort_of_pairwise (by decide +kernel))
  have h_discoverAll : revealingRun.discoverAll after revealingRun.roots =
      (.ok [⟨"crate", "src/lib.rs"⟩, ⟨"crate::b", "src/out/../b.rs"⟩],
        ["cargo:rerun-if-changed=src"]) := by
    simp only [revealingRun, discoverAll, h_discover]
    rfl
  rw [readSources, h_discoverAll]
  simp only [revealingRun, List.append_nil, readAll, h_lib, h_module]
  rfl

theorem staysUnsettled_revealingRun : revealingRun.StaysUnsettled "src/out" revealedTree := by
  have h_settings : revealingRun.checkSettings none = .ok "src/out" := by decide +kernel
  -- The first run writes no unit for the module.
  have h_first :
      let outcome := revealingRun.execute none revealedTree
      outcome.result = .ok { written := ["src/out/DeltaSupport.g.rs", "src/out/ADelta.g.rs",
        "src/out/crate.deltas.rs"] } ∧
      (outcome.tree.makeDirectories "src/out").2.readText "src/out/BDelta.g.rs" =
        .error .notFound := by decide +kernel
  have h_apart :
      let units := ((Session.new {}).setSource "crate" "src/lib.rs"
        "#[derive(TrackDelta)] pub struct A; #[path = \"out/../b.rs\"] mod b;").generate.1.units
      (units.map (·.fileName)).Nodup ∧ ∀ path ∈ revealingRun.consulted revealedTree,
        ∀ unit ∈ units, Path.same path (unitPath "src/out" unit) = false := by decide +kernel
  refine ⟨_, _, _, h_settings, readSources_revealingRun, h_first.1, ⟨h_apart.1, h_apart.2⟩, ?_⟩
  rintro ⟨-, second, h_second, h_none⟩
  have h_holds := holds_of_execute h_settings readSources_again_revealingRun h_second h_none
  -- The second one has such a unit, so it would have to be there already.
  obtain ⟨unit, h_unit, h_path⟩ : ∃ unit ∈ (((Session.new {}).setSource "crate" "src/lib.rs"
      "#[derive(TrackDelta)] pub struct A; #[path = \"out/../b.rs\"] mod b;").setSource
        "crate::b" "src/out/../b.rs" "#[derive(TrackDelta)] pub struct B;").generate.1.units,
      unitPath "src/out" unit = "src/out/BDelta.g.rs" := by decide +kernel
  have h_text := h_holds unit h_unit
  rw [h_path, h_first.2] at h_text
  cases h_text

/-- Two modules whose manifests have different names for one file. -/
def aliasRun : BuildRun where
  files := [⟨"a", "a.rs"⟩, ⟨"./a", "b.rs"⟩]
  outDir := some "out"

def aliasTree : Tree where
  entries := [
    (["a.rs"], .file (.text "#[derive(TrackDelta)] pub struct A;")),
    (["b.rs"], .file (.text "#[derive(TrackDelta)] pub struct B;"))]

/-- The session that has read them. -/
def aliasSession : Session :=
  ((Session.new {}).setSource "a" "a.rs" "#[derive(TrackDelta)] pub struct A;").setSource
    "./a" "b.rs" "#[derive(TrackDelta)] pub struct B;"

theorem readSources_aliasRun :
    aliasRun.readSources aliasTree =
      (.ok aliasSession, ["cargo:rerun-if-changed=a.rs", "cargo:rerun-if-changed=b.rs"]) := by
  have h_a : aliasTree.readText "a.rs" = .ok "#[derive(TrackDelta)] pub struct A;" := by
    decide +kernel
  have h_b : aliasTree.readText "b.rs" = .ok "#[derive(TrackDelta)] pub struct B;" := by
    decide +kernel
  have h_none : aliasRun.discoverAll aliasTree aliasRun.roots = (.ok [], []) := rfl
  rw [readSources, h_none]
  simp only [aliasRun, List.nil_append, readAll, h_a, h_b]
  rfl

/-- The run writes the two manifests last. -/
theorem exists_units_aliasSession :
    ∃ front, aliasSession.generate.1.units = front ++ [Manifest.emit "./a" ["BDelta.g.rs"] {}] ++
      [Manifest.emit "a" ["ADelta.g.rs"] {}] := by
  have h_manifests :
      let compilation := aliasSession.store.compilation
      manifestModules (compilation.collected.flatMap (·.candidates)) compilation.graph =
        ["./a", "a"] ∧ manifestFiles compilation.graph "./a" = ["BDelta.g.rs"] ∧
      manifestFiles compilation.graph "a" = ["ADelta.g.rs"] ∧ compilation.options = {} := by
    decide +kernel
  rw [fst_generate_of_readSources readSources_aliasRun]
  generalize aliasSession.store.compilation = compilation at h_manifests
  obtain ⟨h_modules, h_b, h_a, h_options⟩ := h_manifests
  have h_tail : manifests (compilation.collected.flatMap (·.candidates)) compilation.graph
      compilation.options =
        [Manifest.emit "./a" ["BDelta.g.rs"] {}] ++ [Manifest.emit "a" ["ADelta.g.rs"] {}] := by
    rw [manifests, h_modules, List.map_cons, List.map_singleton, h_b, h_a, h_options]
    rfl
  obtain ⟨front, h_front⟩ : ∃ front, compilation.generate.units =
      front ++ manifests (compilation.collected.flatMap (·.candidates)) compilation.graph
        compilation.options := ⟨_, rfl⟩
  exact ⟨front, by rw [h_front, h_tail, List.append_assoc]⟩

theorem unitPath_aliasRun :
    unitPath "out" (Manifest.emit "./a" ["BDelta.g.rs"] {}) = "out/./a.deltas.rs" ∧
      unitPath "out" (Manifest.emit "a" ["ADelta.g.rs"] {}) = "out/a.deltas.rs" := by
  decide +kernel

theorem exists_report_aliasRun :
    ∃ report, (aliasRun.execute none aliasTree).result = .ok report := by
  have h_settings : aliasRun.checkSettings none = .ok "out" := by decide +kernel
  have h_written :
      let units := aliasSession.generate.1.units
      let written := writeUnits "out" (aliasTree.makeDirectories "out").2
        { diagnostics := aliasSession.generate.1.diagnostics } units.dropLast
      written.1 = .ok { written := ["out/DeltaSupport.g.rs", "out/BDelta.g.rs", "out/ADelta.g.rs",
        "out/./a.deltas.rs"] } ∧
      (written.2.writeText "out/a.deltas.rs"
        (Manifest.emit "a" ["ADelta.g.rs"] {}).text).toOption.isSome := by decide +kernel
  have h_made : (aliasTree.makeDirectories "out").1 = .ok () := by decide +kernel
  obtain ⟨front, h_units⟩ := exists_units_aliasSession
  rw [result_execute h_settings readSources_aliasRun, writeGeneration]
  rcases h_make : aliasTree.makeDirectories "out" with ⟨_ | _, middle⟩
  · rw [h_make] at h_made
    cases h_made
  · simp only [h_make, h_units, List.dropLast_concat] at h_written
    rw [h_units]
    apply exists_writeUnits_concat (Prod.ext h_written.1 rfl)
    rw [unitPath_aliasRun.2]
    exact h_written.2

/-- Whatever the tree is, the two paths lead to one file. -/
theorem readText_alias (tree : Tree) :
    tree.readText "out/./a.deltas.rs" = tree.readText "out/a.deltas.rs" := by
  have h_names :
      Tree.pathNames "out/./a.deltas.rs" ++ Tree.endingNames "out/./a.deltas.rs" =
        ["out"] ++ [".", "a.deltas.rs"] ∧
      Tree.pathNames "out/a.deltas.rs" ++ Tree.endingNames "out/a.deltas.rs" =
        ["out"] ++ ["a.deltas.rs"] := by decide +kernel
  have h_checked : Tree.checkPath "out/./a.deltas.rs" = .ok () ∧
      Tree.checkPath "out/a.deltas.rs" = .ok () := by decide +kernel
  have h_locate : tree.locate "out/./a.deltas.rs" = tree.locate "out/a.deltas.rs" := by
    rw [Tree.locate, Tree.locate, h_names.1, h_names.2, h_checked.1, h_checked.2,
      Tree.walk_append, Tree.walk_append]
    simp only [Tree.walk_dot_cons]
  rw [Tree.readText, Tree.readText, Tree.lookup, Tree.lookup, h_locate]

/-- The manifests differ in what they include. -/
theorem text_emit_alias_ne : (Manifest.emit "./a" ["BDelta.g.rs"] {}).text ≠
    (Manifest.emit "a" ["ADelta.g.rs"] {}).text := by
  intro h_text
  have h_lines (file : String) (h_file : '\n' ∉ file.toList) :
      ∀ other ∈ [file], '\n' ∉ (Manifest.includeText {} other).toList :=
    List.forall_mem_singleton.mpr (Manifest.newline_not_mem_includeText h_file)
  obtain ⟨front, h_b⟩ := Manifest.exists_text_emit "./a" (h_lines "BDelta.g.rs" (by decide))
  obtain ⟨front', h_a⟩ := Manifest.exists_text_emit "a" (h_lines "ADelta.g.rs" (by decide))
  rw [h_b, h_a] at h_text
  have h_lists := congrArg String.toList h_text
  rw [String.toList_append, @String.toList_append (front' ++ "\n")] at h_lists
  have h_ends := (List.append_inj' h_lists (by decide +kernel)).2
  exact absurd h_ends (by decide +kernel)

theorem staysUnsettled_aliasRun : aliasRun.StaysUnsettled "out" aliasTree := by
  have h_settings : aliasRun.checkSettings none = .ok "out" := by decide +kernel
  have h_apart :
      let units := aliasSession.generate.1.units
      (units.map (·.fileName)).Nodup ∧ ∀ path ∈ aliasRun.consulted aliasTree, ∀ unit ∈ units,
        Path.same path (unitPath "out" unit) = false := by decide +kernel
  obtain ⟨front, h_units⟩ := exists_units_aliasSession
  obtain ⟨report, h_report⟩ := exists_report_aliasRun
  refine ⟨aliasSession, _, report, h_settings, readSources_aliasRun, h_report,
    ⟨h_apart.1, h_apart.2⟩, ?_⟩
  -- One file would have to hold the texts of both manifests.
  rintro ⟨h_holds, -⟩
  have h_b := h_holds (Manifest.emit "./a" ["BDelta.g.rs"] {}) (by simp [h_units])
  have h_a := h_holds (Manifest.emit "a" ["ADelta.g.rs"] {}) (by simp [h_units])
  rw [unitPath_aliasRun.1, readText_alias] at h_b
  rw [unitPath_aliasRun.2, h_b] at h_a
  exact text_emit_alias_ne (Except.ok.inj h_a)

end BuildRun
end FieldDelta
