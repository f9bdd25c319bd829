import FieldDelta.Proofs.BuildRun
import Mathlib.Data.List.Forall2

/-! # Runs that stop before they write

A run checks its settings, discovers the sources of each root, and reads one file after the other;
only then does it change the tree.  So a run that is stopped by its settings or its sources leaves
the tree as it was, whatever it had read before.

* `Gives` — the values that are worked out one after the other;
* `BuildRun.StopsEarly` — the places where a run can stop before it writes;
* `BuildRun.execute_stopsEarly` — these are all of them, and none touches the tree.
-/

namespace FieldDelta

open Files

/-! ## One after the other -/

/-- All items succeed, with these values. -/
def Gives {α β ε : Type} (f : α → Except ε β) : List α → List β → Prop :=
  List.Forall₂ fun item value => f item = .ok value

/-- All items succeed, or there is a first one that fails. -/
theorem gives_or_fails {α β ε : Type} (f : α → Except ε β) (items : List α) :
    (∃ values, Gives f items values) ∨
      ∃ before values item rest cause, items = before ++ item :: rest ∧
        Gives f before values ∧ f item = .error cause := by
  induction items with
  | nil => exact .inl ⟨[], .nil⟩
  | cons item items ih =>
    cases h_item : f item with
    | error cause => exact .inr ⟨[], [], item, items, cause, rfl, .nil, h_item⟩
    | ok value =>
      rcases ih with ⟨values, h_values⟩ |
        ⟨before, values, failing, rest, cause, rfl, h_before, h_failing⟩
      · exact .inl ⟨value :: values, .cons h_item h_values⟩
      · exact .inr ⟨item :: before, value :: values, failing, rest, cause, rfl,
          .cons h_item h_before, h_failing⟩

namespace BuildRun

variable {run : BuildRun} {fallback : Option String} {tree : Tree}

/-! ## Discovering -/

theorem discoverAll_of_gives {roots : List String} {found : List (List SourceFile)}
    (h_found : Gives (discover tree) roots found) :
    (run.discoverAll tree roots).1 = .ok found.flatten := by
  induction h_found with
  | nil => rfl
  | cons h_root _ ih => simp [discoverAll, h_root, ih, Except.map]

theorem discoverAll_of_fails {before rest : List String} {root : String}
    {found : List (List SourceFile)} {cause : SourceError}
    (h_before : Gives (discover tree) before found)
    (h_root : discover tree root = .error cause) :
    (run.discoverAll tree (before ++ root :: rest)).1 = .error cause := by
  induction h_before with
  | nil => simp [discoverAll, h_root]
  | cons h_first _ ih => simp [discoverAll, h_first, ih, Except.map]

/-! ## Reading -/

theorem readAll_of_gives {files : List SourceFile} {texts : List String}
    (h_texts : Gives (fun file => tree.readText file.path) files texts) (session : Session) :
    ∃ after, (run.readAll tree session files).1 = .ok after := by
  induction h_texts generalizing session with
  | nil => exact ⟨session, rfl⟩
  | @cons file text _ _ h_file _ ih =>
    obtain ⟨after, h_after⟩ := ih (session.setSource file.modulePath file.path text)
    exact ⟨after, by simp [readAll, h_file, h_after]⟩

theorem readAll_of_fails {before rest : List SourceFile} {file : SourceFile} {texts : List String}
    {cause : SystemError} (h_before : Gives (fun file => tree.readText file.path) before texts)
    (h_file : tree.readText file.path = .error cause) (session : Session) :
    (run.readAll tree session (before ++ file :: rest)).1 =
      .error (.unreadable file.path cause) := by
  induction h_before generalizing session with
  | nil => simp [readAll, h_file]
  | cons h_first _ ih => simp [readAll, h_first, ih]

theorem fst_readSources {found : List SourceFile}
    (h_found : (run.discoverAll tree run.roots).1 = .ok found) :
    (run.readSources tree).1 = (run.readAll tree (.new run.options) (found ++ run.files)).1 := by
  rw [readSources]
  rcases h_discover : run.discoverAll tree run.roots with ⟨answer, printed⟩
  rw [h_discover] at h_found
  simp only at h_found
  simp [h_found]

theorem fst_readSources_error {cause : SourceError}
    (h_found : (run.discoverAll tree run.roots).1 = .error cause) :
    (run.readSources tree).1 = .error cause := by
  rw [readSources]
  rcases h_discover : run.discoverAll tree run.roots with ⟨answer, printed⟩
  rw [h_discover] at h_found
  simp only at h_found
  simp [h_found]

/-! ## Stopping -/

/-- The places where a run stops before it writes anything: the options, the output directory, a
    root behind others that were discovered, and a file behind others that were read. -/
inductive StopsEarly (run : BuildRun) (fallback : Option String) (tree : Tree) :
    RunError → Prop where
  | options {cause : InvalidOption} (h_options : run.options.validate = .error cause) :
      StopsEarly run fallback tree (.invalidOption cause)
  | outDir (h_options : run.options.validate = .ok ()) (h_none : run.outDir.or fallback = none) :
      StopsEarly run fallback tree .missingOutDir
  | root {outDir root : String} {before rest : List String} {found : List (List SourceFile)}
      {cause : SourceError} (h_settings : run.checkSettings fallback = .ok outDir)
      (h_roots : run.roots = before ++ root :: rest)
      (h_before : Gives (discover tree) before found) (h_root : discover tree root = .error cause) :
      StopsEarly run fallback tree (.source cause)
  | file {outDir : String} {found : List (List SourceFile)} {before rest : List SourceFile}
      {file : SourceFile} {texts : List String} {cause : SystemError}
      (h_settings : run.checkSettings fallback = .ok outDir)
      (h_found : Gives (discover tree) run.roots found)
      (h_files : found.flatten ++ run.files = before ++ file :: rest)
      (h_before : Gives (fun file => tree.readText file.path) before texts)
      (h_file : tree.readText file.path = .error cause) :
      StopsEarly run fallback tree (.source (.unreadable file.path cause))

/-- What is wrong with the settings stops the run. -/
theorem execute_of_settings {error : RunError}
    (h_settings : run.checkSettings fallback = .error error) :
    run.execute fallback tree = { result := .error error, tree := tree } := by
  simp [execute, h_settings]

/-- What is wrong with the sources stops the run, and leaves the tree. -/
theorem execute_of_sources {outDir : String} {cause : SourceError}
    (h_settings : run.checkSettings fallback = .ok outDir)
    (h_read : (run.readSources tree).1 = .error cause) :
    (run.execute fallback tree).result = .error (.source cause) ∧
      (run.execute fallback tree).tree = tree := by
  rw [execute, h_settings]
  rcases h_sources : run.readSources tree with ⟨answer, printed⟩
  rw [h_sources] at h_read
  simp only at h_read
  simp [h_read]

/-- Units are written one by one, and only writing one can fail. -/
theorem writeUnits_error {outDir : String} {units : List OutputUnit} {report : Report}
    {error : RunError} (h_error : (writeUnits outDir tree report units).1 = .error error) :
    ∃ path cause, error = .write path cause := by
  induction units generalizing tree report with
  | nil => cases h_error
  | cons unit rest ih =>
    rw [writeUnits_eq] at h_error
    split at h_error
    next => exact ih h_error
    next =>
      split at h_error
      next cause _ =>
        cases h_error
        exact ⟨_, cause, rfl⟩
      next => exact ih h_error

theorem writeGeneration_error {outDir : String} {generation : Generation} {error : RunError}
    (h_error : (writeGeneration outDir tree generation).1 = .error error) :
    ∃ path cause, error = .write path cause := by
  unfold writeGeneration at h_error
  split at h_error
  next cause _ _ =>
    cases h_error
    exact ⟨outDir, cause, rfl⟩
  next => exact writeUnits_error h_error

theorem checkSettings_error {error : RunError}
    (h_settings : run.checkSettings fallback = .error error) :
    StopsEarly run fallback tree error := by
  unfold checkSettings at h_settings
  split at h_settings
  next cause h_options =>
    cases h_settings
    exact .options h_options
  next h_options =>
    split at h_settings
    next => cases h_settings
    next h_none =>
      cases h_settings
      exact .outDir h_options h_none

/-- A run whose sources cannot be read stops at one of them. -/
theorem stopsEarly_of_sources {outDir : String} {cause : SourceError}
    (h_settings : run.checkSettings fallback = .ok outDir)
    (h_read : (run.readSources tree).1 = .error cause) :
    StopsEarly run fallback tree (.source cause) := by
  rcases gives_or_fails (discover tree) run.roots with
    ⟨found, h_found⟩ | ⟨before, found, root, rest, cause', h_roots, h_before, h_root⟩
  · -- All roots are discovered, so it is one of the files.
    rw [fst_readSources (discoverAll_of_gives h_found)] at h_read
    rcases gives_or_fails (fun file => tree.readText file.path) (found.flatten ++ run.files) with
      ⟨texts, h_texts⟩ | ⟨before, texts, file, rest, cause', h_files, h_before, h_file⟩
    · obtain ⟨after, h_after⟩ :
          ∃ after,
            (run.readAll tree (.new run.options) (found.flatten ++ run.files)).1 = .ok after :=
        readAll_of_gives h_texts _
      rw [h_after] at h_read
      cases h_read
    · rw [h_files, readAll_of_fails h_before h_file] at h_read
      cases h_read
      exact .file h_settings h_found h_files h_before h_file
  · have h_error : (run.discoverAll tree run.roots).1 = .error cause' := by
      rw [h_roots]
      exact discoverAll_of_fails h_before h_root
    rw [fst_readSources_error h_error] at h_read
    cases h_read
    exact .root h_settings h_roots h_before h_root

/-- At each of these places the run stops with its error, and the tree is what it was. -/
theorem StopsEarly.execute {error : RunError} (h_stops : StopsEarly run fallback tree error) :
    (run.execute fallback tree).result = .error error ∧ (run.execute fallback tree).tree = tree := by
  cases h_stops with
  | @options cause h_options =>
    have h_settings : run.checkSettings fallback = .error (.invalidOption cause) := by
      rw [checkSettings, h_options]
    simp [execute_of_settings h_settings]
  | outDir h_options h_none =>
    have h_settings : run.checkSettings fallback = .error .missingOutDir := by
      simp only [checkSettings, h_options, h_none]
    simp [execute_of_settings h_settings]
  | root h_settings h_roots h_before h_root =>
    apply execute_of_sources h_settings
    apply fst_readSources_error
    rw [h_roots]
    exact discoverAll_of_fails h_before h_root
  | file h_settings h_found h_files h_before h_file =>
    apply execute_of_sources h_settings
    rw [fst_readSources (discoverAll_of_gives h_found), h_files]
    exact readAll_of_fails h_before h_file _

/-- A run that fails for another reason than writing has stopped at one of these places: at its
    options, its output directory, one of its roots or one of its files, whatever came before.  And
    it has not touched the tree. -/
theorem execute_stopsEarly (run : BuildRun) (fallback : Option String) (tree : Tree)
    (error : RunError) :
    ((run.execute fallback tree).result = .error error ∧ (∀ path cause, error ≠ .write path cause) ↔
      StopsEarly run fallback tree error) ∧
    (StopsEarly run fallback tree error → (run.execute fallback tree).tree = tree) := by
  refine ⟨⟨?_, fun h_stops => ⟨h_stops.execute.1, ?_⟩⟩, fun h_stops => h_stops.execute.2⟩
  · rintro ⟨h_result, h_kind⟩
    cases h_settings : run.checkSettings fallback with
    | error error' =>
      rw [execute_of_settings h_settings] at h_result
      cases h_result
      exact checkSettings_error h_settings
    | ok outDir =>
      rcases h_read : run.readSources tree with ⟨_ | session, printed⟩
      case error cause =>
        have h_read' : (run.readSources tree).1 = .error cause := by rw [h_read]
        rw [(execute_of_sources h_settings h_read').1] at h_result
        cases h_result
        exact stopsEarly_of_sources h_settings h_read'
      case ok =>
        -- From here on the run writes, and fails in no other way.
        simp only [execute, h_settings, h_read] at h_result
        split at h_result
        next error' after h_write =>
          cases h_result
          obtain ⟨path, cause, h_error⟩ := writeGeneration_error (congrArg Prod.fst h_write)
          exact absurd h_error (h_kind path cause)
        next => cases h_result
  · intro path cause h_write
    subst h_write
    cases h_stops

/-- A run over two files, of which the second is missing. -/
def unfinishedRun : BuildRun where
  files := [⟨"crate", "a.rs"⟩, ⟨"crate::b", "b.rs"⟩]
  outDir := some "out"

def oneFileTree : Tree where
  entries := [(["a.rs"], .file (.text "#[derive(TrackDelta)] pub struct A;"))]

theorem execute_stopsEarly_unfinishedRun :
    StopsEarly unfinishedRun none oneFileTree (.source (.unreadable "b.rs" .notFound)) ∧
    (unfinishedRun.execute none oneFileTree).result =
        .error (.source (.unreadable "b.rs" .notFound)) ∧
    (unfinishedRun.execute none oneFileTree).tree = oneFileTree := by
  have h_settings : unfinishedRun.checkSettings none = .ok "out" := by decide +kernel
  have h_files : ([] : List (List SourceFile)).flatten ++ unfinishedRun.files =
      [⟨"crate", "a.rs"⟩] ++ ⟨"crate::b", "b.rs"⟩ :: [] :=
    rfl
  have h_before : Gives (fun file : SourceFile => oneFileTree.readText file.path)
      [⟨"crate", "a.rs"⟩] ["#[derive(TrackDelta)] pub struct A;"] :=
    .cons (by decide +kernel) .nil
  have h_file : oneFileTree.readText "b.rs" = .error .notFound := by decide +kernel
  have h_stops : StopsEarly unfinishedRun none oneFileTree
      (.source (.unreadable "b.rs" .notFound)) :=
    .file h_settings .nil h_files h_before h_file
  obtain ⟨h_iff, h_tree⟩ := execute_stopsEarly unfinishedRun none oneFileTree
    (.source (.unreadable "b.rs" .notFound))
  exact ⟨h_stops, (h_iff.mpr h_stops).1, h_tree h_stops⟩

end BuildRun
end FieldDelta
