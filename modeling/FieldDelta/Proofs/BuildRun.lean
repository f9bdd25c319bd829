import FieldDelta.BuildRun
import FieldDelta.Proofs.Files.Writing
import FieldDelta.Proofs.Generation.Accounting
import FieldDelta.Proofs.Generation.FileNames
import FieldDelta.Proofs.Sessions.Sources
import FieldDelta.Proofs.Syntax.Words

/-! # What becomes of the sources of a build run

A run reads the files that discovery finds and those that are given, into a session.  What it
writes is the generation of that session, so a marked type of a file is accounted for if its file
is still there when the session generates.  A file is not if a later one is read for the same
module (`Session.calls_spec`), and then nothing tells of its types.

* `BuildRun.ReadAs` — files with the texts that are read from them;
* `BuildRun.writeUnits_provides` — what is written stays;
* `BuildRun.Emits`, `Report.Blames` — the two ways to account for a type;
* `BuildRun.execute_accounts` — what holds of all types that the session knows in the end.
-/

namespace FieldDelta

open Files Query

/-! ## Reading -/

namespace BuildRun

/-- The sources are those of the files, with what is read from them. -/
def ReadAs (tree : Tree) : List SourceFile → List Source → Prop :=
  List.Forall₂ fun file source => source.modulePath = file.modulePath ∧ source.path = file.path ∧
    tree.readText file.path = .ok source.text

theorem ReadAs.unique {tree : Tree} {files : List SourceFile} {sources others : List Source}
    (h_sources : ReadAs tree files sources) (h_others : ReadAs tree files others) :
    sources = others := by
  induction h_sources generalizing others with
  | nil =>
    cases h_others
    rfl
  | @cons file source _ _ h_source _ ih =>
    cases h_others with
    | @cons _ other _ _ h_other h_rest =>
      obtain ⟨h_module, h_path, h_text⟩ := h_source
      obtain ⟨h_module', h_path', h_text'⟩ := h_other
      have h_eq : source = other := by
        rw [Source.mk.injEq]
        exact ⟨h_module.trans h_module'.symm, h_path.trans h_path'.symm,
          Except.ok.inj (h_text.symm.trans h_text')⟩
      rw [h_eq, ih h_rest]

theorem readAll_eq_ok {run : BuildRun} {tree : Tree} {files : List SourceFile}
    {session after : Session} {printed : List String}
    (h_read : run.readAll tree session files = (.ok after, printed)) :
    ∃ sources, ReadAs tree files sources ∧
      after = session.calls (sources.map Session.Call.ofSource) := by
  induction files generalizing session printed with
  | nil =>
    cases h_read
    exact ⟨[], .nil, rfl⟩
  | cons file rest ih =>
    rw [readAll] at h_read
    split at h_read
    next => cases h_read
    next text h_text =>
      obtain ⟨h_rest, -⟩ := Prod.mk.inj h_read
      obtain ⟨sources, h_sources, h_after⟩ := ih (Prod.ext h_rest rfl)
      exact ⟨⟨file.modulePath, file.path, text⟩ :: sources, .cons ⟨rfl, rfl, h_text⟩ h_sources,
        h_after⟩

/-- The session of a run is what setting all its sources leaves. -/
theorem readSources_eq_ok {run : BuildRun} {tree : Tree} {session : Session}
    {printed : List String} (h_read : run.readSources tree = (.ok session, printed)) :
    ∃ found sources, (run.discoverAll tree run.roots).1 = .ok found ∧
      ReadAs tree (found ++ run.files) sources ∧
      session = (Session.new run.options).calls (sources.map Session.Call.ofSource) := by
  unfold readSources at h_read
  split at h_read
  next => cases h_read
  next found _ h_found =>
    obtain ⟨h_session, -⟩ := Prod.mk.inj h_read
    obtain ⟨sources, h_sources, h_after⟩ := readAll_eq_ok (Prod.ext h_session rfl)
    exact ⟨found, sources, congrArg Prod.fst h_found, h_sources, h_after⟩

/-! ## Writing -/

end BuildRun

/-- The files that a report lists. -/
def Report.files (report : Report) : List String :=
  report.written ++ report.unchanged

namespace BuildRun

/-- The path of a unit in the output directory. -/
def unitPath (outDir : String) (unit : OutputUnit) : String :=
  Path.join outDir unit.fileName

/-- Units later in a list do not touch the file with the given name. -/
def Spares (outDir name : String) (units : List OutputUnit) : Prop :=
  ∀ unit ∈ units, ∃ other, Path.NamesLast (unitPath outDir unit) other ∧ other ≠ name

variable {outDir : String} {tree after : Tree} {report final : Report} {unit : OutputUnit}
  {units rest : List OutputUnit}

theorem writeUnits_eq (outDir : String) (tree : Tree) (report : Report) (unit : OutputUnit)
    (rest : List OutputUnit) :
    writeUnits outDir tree report (unit :: rest) =
      if holds tree (unitPath outDir unit) unit.text then
        writeUnits outDir tree
          { report with unchanged := report.unchanged ++ [unitPath outDir unit] } rest
      else
        match tree.writeText (unitPath outDir unit) unit.text with
        | .error cause => (.error (.write (unitPath outDir unit) cause), tree)
        | .ok tree =>
          writeUnits outDir tree
            { report with written := report.written ++ [unitPath outDir unit] } rest :=
  (rfl)

/-- A unit that is written, or found to be there, is listed. -/
theorem writeUnits_cons (h_write : writeUnits outDir tree report (unit :: rest) = (.ok final, after)) :
    ∃ middle report', writeUnits outDir middle report' rest = (.ok final, after) ∧
      (middle = tree ∧ tree.readText (unitPath outDir unit) = .ok unit.text ∨
        tree.writeText (unitPath outDir unit) unit.text = .ok middle) ∧
      report'.diagnostics = report.diagnostics ∧
      ∀ path, path ∈ report'.files ↔ path ∈ report.files ∨ path = unitPath outDir unit := by
  rw [writeUnits_eq] at h_write
  split at h_write
  next h_holds =>
    refine ⟨tree, _, h_write, .inl ⟨rfl, ?_⟩, rfl, ?_⟩
    · unfold holds at h_holds
      split at h_holds
      next text h_text => exact h_text.trans (congrArg _ (beq_iff_eq.mp h_holds))
      next => cases h_holds
    · simp [Report.files, or_assoc]
  next =>
    split at h_write
    next => cases h_write
    next middle h_middle =>
      refine ⟨middle, _, h_write, .inr h_middle, rfl, ?_⟩
      simp [Report.files, or_assoc, or_comm]

/-- What has been there before units are written is still there, unless they have its name. -/
theorem writeUnits_keeps {path name text : String}
    (h_write : writeUnits outDir tree report units = (.ok final, after))
    (h_path : Path.NamesLast path name) (h_current : name ≠ ".") (h_parent : name ≠ "..")
    (h_units : Spares outDir name units) (h_read : tree.readText path = .ok text) :
    after.readText path = .ok text ∧ final.diagnostics = report.diagnostics ∧
      report.files ⊆ final.files := by
  induction units generalizing tree report with
  | nil =>
    cases h_write
    exact ⟨h_read, rfl, List.Subset.refl _⟩
  | cons unit rest ih =>
    obtain ⟨h_unit, h_rest⟩ := List.forall_mem_cons.mp h_units
    obtain ⟨middle, report', h_write, h_middle, h_diagnostics, h_files⟩ := writeUnits_cons h_write
    have h_read : middle.readText path = .ok text := by
      rcases h_middle with ⟨rfl, -⟩ | h_middle
      · exact h_read
      · obtain ⟨other, h_other, h_ne⟩ := h_unit
        exact Tree.readText_of_writeText h_middle h_read h_other h_path h_current h_parent h_ne
    obtain ⟨h_final, h_same, h_listed⟩ := ih h_write h_rest h_read
    exact ⟨h_final, h_same.trans h_diagnostics, fun path h_mem =>
      h_listed ((h_files path).mpr (.inl h_mem))⟩

theorem diagnostics_writeUnits
    (h_write : writeUnits outDir tree report units = (.ok final, after)) :
    final.diagnostics = report.diagnostics := by
  induction units generalizing tree report with
  | nil =>
    cases h_write
    rfl
  | cons unit rest ih =>
    obtain ⟨_, _, h_write, -, h_diagnostics, -⟩ := writeUnits_cons h_write
    exact (ih h_write).trans h_diagnostics

/-- A unit is there in the end if no later one has its name. -/
theorem writeUnits_provides {front : List OutputUnit} {name : String}
    (h_write : writeUnits outDir tree report (front ++ unit :: rest) = (.ok final, after))
    (h_name : Path.NamesLast (unitPath outDir unit) name) (h_current : name ≠ ".")
    (h_parent : name ≠ "..") (h_rest : Spares outDir name rest) :
    unitPath outDir unit ∈ final.files ∧
      after.readText (unitPath outDir unit) = .ok unit.text := by
  induction front generalizing tree report with
  | nil =>
    obtain ⟨middle, report', h_write, h_middle, -, h_files⟩ := writeUnits_cons h_write
    have h_read : middle.readText (unitPath outDir unit) = .ok unit.text := by
      rcases h_middle with ⟨rfl, h_read⟩ | h_middle
      · exact h_read
      · exact Tree.readText_writeText h_name.endingNames h_middle
    obtain ⟨h_final, -, h_listed⟩ :=
      writeUnits_keeps h_write h_name h_current h_parent h_rest h_read
    exact ⟨h_listed ((h_files _).mpr (.inr rfl)), h_final⟩
  | cons first front ih =>
    obtain ⟨_, _, h_write, -⟩ := writeUnits_cons h_write
    exact ih h_write

/-! ## Running -/

theorem result_execute {run : BuildRun} {fallback : Option String} {tree : Tree} {outDir : String}
    {session : Session} {printed : List String}
    (h_settings : run.checkSettings fallback = .ok outDir)
    (h_read : run.readSources tree = (.ok session, printed)) :
    (run.execute fallback tree).result = (writeGeneration outDir tree session.generate.1).1 := by
  simp only [execute, h_settings, h_read]
  rcases writeGeneration outDir tree session.generate.1 with ⟨_ | _, _⟩ <;> rfl

theorem execute_eq_ok {run : BuildRun} {fallback : Option String} {tree : Tree} {report : Report}
    (h_run : (run.execute fallback tree).result = .ok report) :
    ∃ outDir session printed middle, run.checkSettings fallback = .ok outDir ∧
      run.readSources tree = (.ok session, printed) ∧
      writeUnits outDir middle { diagnostics := session.generate.1.diagnostics }
        session.generate.1.units = (.ok report, (run.execute fallback tree).tree) := by
  unfold execute at h_run ⊢
  split at h_run
  next => cases h_run
  next outDir h_settings =>
    split at h_run
    next => cases h_run
    next session printed h_read =>
      dsimp only at h_run
      split at h_run
      next => cases h_run
      next report' after h_write =>
        cases h_run
        simp only [h_settings, h_read, h_write]
        unfold writeGeneration at h_write
        split at h_write
        next => cases h_write
        next middle _ => exact ⟨outDir, session, printed, middle, rfl, rfl, h_write⟩

end BuildRun

/-! ## Accounting -/

namespace Compilation

variable {compilation : Compilation}

/-- A candidate has a node of its own or is blamed. -/
theorem exists_node_or_blames (h_candidate : candidate ∈ compilation.candidates) :
    (∃ node ∈ compilation.graph.nodes, (describe candidate).descriptor = some node.unlinked) ∨
      compilation.Blames candidate.identity := by
  rw [blames_iff]
  cases h_described : (describe candidate).descriptor with
  | none => exact .inr (.inr (.inl ⟨candidate, h_candidate, rfl, h_described⟩))
  | some d =>
    have h_d : d ∈ compilation.descriptors := mem_descriptors.mpr ⟨_, h_candidate, h_described⟩
    rw [← identity_of_describe h_described]
    refine (Graph.kept_or_faulty h_d).imp ?_ fun h_faulty => .inr (.inr h_faulty)
    rintro ⟨e, h_e, h_identity⟩
    -- What is kept carries its identity alone, so it is the description of the candidate.
    have h_bearers := Graph.mem_unique_iff_bearers.mp (Graph.unique_of_kept h_e)
    have h_mem : d ∈ Graph.bearers compilation.descriptors e.identity :=
      Graph.mem_bearers.mpr ⟨h_d, h_identity.symm⟩
    rw [h_bearers, List.mem_singleton] at h_mem
    subst h_mem
    have h_node := List.mem_map_of_mem (f := Graph.link (Graph.kept compilation.descriptors)
      compilation.options) h_e
    rw [← Graph.nodes_assemble] at h_node
    refine ⟨_, h_node, ?_⟩
    rw [Graph.unlinked_link, (isUnlinked_of_mem_descriptors d h_d).unlinked_eq]

theorem slash_not_mem_of_mem_nodes {node : Descriptor} (h_node : node ∈ compilation.graph.nodes) :
    '/' ∉ node.generatedName.toList :=
  IsForeign.not_mem_of_mem_nodes (by decide +kernel) h_node

end Compilation

/-- An error of the report names the identity, as its subject or among the claimants of a generated
    name. -/
def Report.Blames (report : Report) (identity : TypeIdentity) : Prop :=
  (∃ found ∈ report.diagnostics, found.Accuses identity) ∨
  ∃ clash : Graph.Clash, clash.finding ∈ report.diagnostics ∧ identity ∈ clash.identities

namespace BuildRun

/-- A delta unit that is generated from the candidate is listed, and stands in the output directory
    when the run has ended. -/
def Emits (run : BuildRun) (outDir : String) (outcome : RunOutcome) (report : Report)
    (candidate : Candidate) : Prop :=
  ∃ node : Descriptor, (describe candidate).descriptor = some node.unlinked ∧
    let path := unitPath outDir (DeltaUnit.emit node run.options)
    path ∈ report.files ∧
      outcome.tree.readText path = .ok (DeltaUnit.emit node run.options).text

variable {compilation : Compilation} {outDir : String} {tree after : Tree} {report final : Report}

theorem deltaUnitFileName_ne (generatedName : String) {other : String} (h_other : other.length < 5) :
    Naming.deltaUnitFileName generatedName ≠ other := by
  rintro rfl
  rw [Naming.deltaUnitFileName, String.length_append] at h_other
  exact absurd h_other (Nat.not_lt.mpr (Nat.le_add_left 5 _))

theorem namesLast_deltaUnit {node : Descriptor} (h_slash : '/' ∉ node.generatedName.toList) :
    Path.NamesLast (unitPath outDir (DeltaUnit.emit node compilation.options))
      (Naming.deltaUnitFileName node.generatedName) := by
  refine Path.namesLast_join ?_ (deltaUnitFileName_ne _ (by decide))
  change '/' ∉ (node.generatedName ++ ".g.rs").toList
  rw [String.toList_append, List.mem_append]
  exact not_or.mpr ⟨h_slash, by decide⟩

/-- Delta units have different names, and manifests have none of theirs. -/
theorem spares_deltaUnit {node : Descriptor} {front back : List Descriptor}
    (h_nodes : compilation.graph.nodes = front ++ node :: back) :
    Spares outDir (Naming.deltaUnitFileName node.generatedName)
      (back.map (DeltaUnit.emit · compilation.options) ++
        manifests compilation.candidates compilation.graph compilation.options) := by
  refine List.forall_mem_append.mpr ⟨?_, ?_⟩
  · intro unit h_unit
    obtain ⟨other, h_other, rfl⟩ := List.mem_map.mp h_unit
    have h_mem : other ∈ compilation.graph.nodes := by
      rw [h_nodes]
      exact List.mem_append_right _ (.tail _ h_other)
    refine ⟨_, namesLast_deltaUnit (Compilation.slash_not_mem_of_mem_nodes h_mem), ?_⟩
    have h_names := compilation.nodup_deltaUnitNames
    rw [h_nodes, List.map_append, List.map_append, List.map_cons, List.map_cons,
      List.nodup_append] at h_names
    have h_fresh := (List.nodup_cons.mp h_names.2.1).1
    rintro h_same
    exact h_fresh (h_same ▸ List.mem_map_of_mem (List.mem_map_of_mem h_other))
  · intro unit h_unit
    obtain ⟨modulePath, -, rfl⟩ := List.mem_map.mp h_unit
    obtain ⟨name, h_name⟩ := Path.exists_namesLast_join outDir
      (Naming.moduleKey modulePath) ".deltas.rs" (by decide) (by decide)
    exact ⟨_, h_name, (Naming.deltaUnitFileName_ne_append _ _).symm⟩

/-- The delta units of a generation are there when it has been written. -/
theorem writeUnits_generate
    (h_write : writeUnits outDir tree report compilation.generate.units = (.ok final, after))
    {node : Descriptor} (h_node : node ∈ compilation.graph.nodes) :
    let unit := DeltaUnit.emit node compilation.options
    unitPath outDir unit ∈ final.files ∧
      after.readText (unitPath outDir unit) = .ok unit.text := by
  obtain ⟨front, back, h_nodes⟩ := List.append_of_mem h_node
  have h_units : compilation.generate.units =
      (compilation.options.supportUnit?.toList ++
        front.map (DeltaUnit.emit · compilation.options)) ++
      DeltaUnit.emit node compilation.options ::
        (back.map (DeltaUnit.emit · compilation.options) ++
          manifests compilation.candidates compilation.graph compilation.options) := by
    change _ ++ compilation.graph.nodes.map _ ++ _ = _
    rw [h_nodes]
    simp only [List.map_append, List.map_cons, List.append_assoc, List.cons_append]
    rfl
  rw [h_units] at h_write
  exact writeUnits_provides h_write
    (namesLast_deltaUnit (Compilation.slash_not_mem_of_mem_nodes h_node))
    (deltaUnitFileName_ne _ (by decide)) (deltaUnitFileName_ne _ (by decide))
    (spares_deltaUnit h_nodes)

/-- A run that succeeds accounts for a marked type of a file that it has read, if the last file
    that it has read for the same module has the type as well: its delta unit stands in the output
    directory, or an error names it. -/
theorem execute_accounts (run : BuildRun) (fallback : Option String) (tree : Tree)
    (report : Report) (h_run : (run.execute fallback tree).result = .ok report) :
    ∃ outDir found sources, run.checkSettings fallback = .ok outDir ∧
      (run.discoverAll tree run.roots).1 = .ok found ∧ ReadAs tree (found ++ run.files) sources ∧
      ∀ source ∈ sources, ∀ candidate ∈ source.collected.candidates,
        (∀ last, Source.lastOf? sources source.modulePath = some last →
          candidate ∈ last.collected.candidates) →
        run.Emits outDir (run.execute fallback tree) report candidate ∨
          report.Blames candidate.identity := by
  obtain ⟨outDir, session, printed, middle, h_settings, h_read, h_write⟩ := execute_eq_ok h_run
  obtain ⟨found, sources, h_found, h_sources, rfl⟩ := readSources_eq_ok h_read
  refine ⟨outDir, found, sources, h_settings, h_found, h_sources, ?_⟩
  intro source h_source candidate h_candidate h_last
  obtain ⟨h_consistent, h_options, h_stays⟩ := Session.calls_spec (.new run.options) sources
  obtain ⟨h_sound, -⟩ := Session.recorded_calls (.new run.options)
    (.initial run.options) (.initial run.options) (sources.map Session.Call.ofSource)
  rw [Session.fst_generate h_sound] at h_write
  -- The last file for the module has left its text in the session.
  obtain ⟨last, h_find, h_module⟩ := Source.exists_lastOf? h_source
  obtain ⟨stored, h_stored, h_text⟩ := h_stays _ _ h_find
  obtain ⟨h_stored_module, h_mem⟩ := h_consistent.mem_sources h_stored
  have h_collected := Source.candidates_congr (h_stored_module.trans h_module.symm) h_text
  generalize (Session.new run.options).calls (sources.map Session.Call.ofSource) = session at *
  have h_compiled : candidate ∈ session.store.compilation.candidates :=
    List.mem_flatMap.mpr ⟨stored.collected, List.mem_map_of_mem h_mem,
      h_collected ▸ h_last last h_find⟩
  refine (Compilation.exists_node_or_blames h_compiled).imp ?_ fun h_blames => ?_
  · rintro ⟨node, h_node, h_described⟩
    have h_unit := writeUnits_generate h_write h_node
    rw [show session.store.compilation.options = run.options from h_options] at h_unit
    exact ⟨node, h_described, h_unit⟩
  · have h_same : report.diagnostics = session.store.compilation.generate.diagnostics :=
      diagnostics_writeUnits h_write
    rw [Report.Blames, h_same]
    exact h_blames.imp_right fun ⟨clash, _, h_finding, h_identity⟩ =>
      ⟨clash, h_finding, h_identity⟩

/-- Two files for one module, the second of which has what the first one has. -/
def agreeingRun : BuildRun where
  files := [⟨"crate", "a.rs"⟩, ⟨"crate", "b.rs"⟩]
  outDir := some "out"

def agreeingTree : Tree where
  entries := [
    (["a.rs"], .file (.text "#[derive(TrackDelta)] pub struct A;")),
    (["b.rs"], .file (.text
      "#[derive(TrackDelta)] pub struct A; #[derive(TrackDelta)] pub struct B;"))]

/-- The candidate that both files have. -/
def agreedCandidate : Candidate where
  identity := ⟨"crate::A"⟩
  kind := .struct
  scope := {}
  item := "# [derive (TrackDelta)] pub struct A ;"

theorem execute_accounts_agreeingRun :
    let outcome := agreeingRun.execute none agreeingTree
    let report : Report :=
      { written := ["out/DeltaSupport.g.rs", "out/ADelta.g.rs", "out/BDelta.g.rs",
          "out/crate.deltas.rs"] }
    outcome.result = .ok report ∧ agreeingRun.Emits "out" outcome report agreedCandidate := by
  intro outcome report
  have h_run : outcome.result = .ok report := by decide +kernel
  refine ⟨h_run, ?_⟩
  obtain ⟨outDir, found, sources, h_settings, h_found, h_sources, h_accounts⟩ :=
    execute_accounts agreeingRun none agreeingTree report h_run
  cases h_settings
  cases h_found
  have h_read : ReadAs agreeingTree agreeingRun.files
      [⟨"crate", "a.rs", "#[derive(TrackDelta)] pub struct A;"⟩,
       ⟨"crate", "b.rs",
        "#[derive(TrackDelta)] pub struct A; #[derive(TrackDelta)] pub struct B;"⟩] :=
    .cons ⟨rfl, rfl, by decide +kernel⟩ (.cons ⟨rfl, rfl, by decide +kernel⟩ .nil)
  obtain rfl := h_sources.unique h_read
  refine (h_accounts _ (.head _) agreedCandidate (by decide +kernel) ?_).resolve_right ?_
  · intro last h_last
    cases h_last
    decide +kernel
  · rintro (⟨found, h_mem, -⟩ | ⟨clash, h_mem, -⟩) <;> cases h_mem

/-- Two crates in one run, whose root files both are the module `crate`. -/
def displacingRun : BuildRun where
  roots := ["a", "b"]
  outDir := some "out"

def twoCrateTree : Tree where
  entries := [
    (["a"], .directory),
    (["b"], .directory),
    (["a", "lib.rs"], .file (.text "#[derive(TrackDelta)] pub struct A;")),
    (["b", "lib.rs"], .file (.text "#[derive(TrackDelta)] pub struct B;"))]

/-- A crate whose root file is all that there is. -/
theorem discover_of_one {tree : Tree} {root path : String} (h_root : rootFile? tree root = some path)
    (h_explore : explore tree pathCount []
      [{ modulePath := "crate", path := path, childrenDir := root }] = .ok [⟨"crate", path⟩]) :
    discover tree root = .ok [⟨"crate", path⟩] := by
  rw [discover, h_root]
  simp only [h_explore]
  exact congrArg Except.ok (List.mergeSort_singleton _)

theorem discoverAll_displacingRun :
    displacingRun.discoverAll twoCrateTree displacingRun.roots =
      (.ok [⟨"crate", "a/lib.rs"⟩, ⟨"crate", "b/lib.rs"⟩],
        ["cargo:rerun-if-changed=a", "cargo:rerun-if-changed=b"]) := by
  have h_a : discover twoCrateTree "a" = .ok [⟨"crate", "a/lib.rs"⟩] :=
    discover_of_one (by decide +kernel) (by decide +kernel)
  have h_b : discover twoCrateTree "b" = .ok [⟨"crate", "b/lib.rs"⟩] :=
    discover_of_one (by decide +kernel) (by decide +kernel)
  simp only [displacingRun, discoverAll, h_a, h_b]
  rfl

theorem readSources_displacingRun :
    displacingRun.readSources twoCrateTree =
      (.ok (((Session.new {}).setSource "crate" "a/lib.rs"
          "#[derive(TrackDelta)] pub struct A;").setSource "crate" "b/lib.rs"
          "#[derive(TrackDelta)] pub struct B;"),
        ["cargo:rerun-if-changed=a", "cargo:rerun-if-changed=b",
         "cargo:rerun-if-changed=a/lib.rs", "cargo:rerun-if-changed=b/lib.rs"]) := by
  have h_a : twoCrateTree.readText "a/lib.rs" = .ok "#[derive(TrackDelta)] pub struct A;" := by
    decide +kernel
  have h_b : twoCrateTree.readText "b/lib.rs" = .ok "#[derive(TrackDelta)] pub struct B;" := by
    decide +kernel
  rw [readSources, discoverAll_displacingRun]
  simp only [displacingRun, List.append_nil, readAll, h_a, h_b]
  rfl

/-- Nothing tells of the type in the first crate. -/
theorem not_accounted_displacingRun :
    let outcome := displacingRun.execute none twoCrateTree
    let report : Report :=
      { written := ["out/DeltaSupport.g.rs", "out/BDelta.g.rs", "out/crate.deltas.rs"] }
    outcome.result = .ok report ∧
    agreedCandidate ∈ (collect "crate" "a/lib.rs" "#[derive(TrackDelta)] pub struct A;").candidates ∧
    ¬ (displacingRun.Emits "out" outcome report agreedCandidate ∨
      report.Blames agreedCandidate.identity) := by
  intro outcome report
  refine ⟨?_, by decide +kernel, ?_⟩
  · have h_settings : displacingRun.checkSettings none = .ok "out" := by decide +kernel
    rw [result_execute h_settings readSources_displacingRun]
    decide +kernel
  · rintro (⟨node, h_described, h_listed, -⟩ | ⟨found, h_mem, -⟩ | ⟨clash, h_mem, -⟩)
    · have h_name : (describe agreedCandidate).descriptor.map (·.generatedName) = some "ADelta" := by
        decide +kernel
      rw [h_described] at h_name
      have h_path : unitPath "out" (DeltaUnit.emit node displacingRun.options) =
          Path.join "out" (Naming.deltaUnitFileName "ADelta") :=
        congrArg (fun name => Path.join "out" (Naming.deltaUnitFileName name))
          (Option.some.inj h_name)
      rw [h_path] at h_listed
      exact absurd h_listed (by decide +kernel)
    · cases h_mem
    · cases h_mem

end BuildRun
end FieldDelta
