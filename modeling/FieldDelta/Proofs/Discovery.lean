import FieldDelta.Proofs.Files.Paths

/-! # Where modules are found

A crate is read from its root file on, following module declarations.  The compiler seeks a module
beside the file that declares it, or in a directory beside that file; discovery does so too, but
takes one directory for both.

* `FileModule` — a module whose items are in a file of their own, as it is declared;
* `ModuleFile` — a file, and how it was reached;
* `Rule` — the directories in which a file's modules are sought: `Rule.compiler`, `Rule.direct`;
* `IsReading` — what a rule finds in a crate, each file read once.

`discover_isReading` says that discovery reads a crate by `Rule.direct`, and that this is what the
compiler finds as long as no module is displaced.  A module is displaced if the two directories
differ and the wrong one is taken: behind a path attribute outside of inline modules, and in a file
that was itself reached by such an attribute (`FileModule.IsDisplaced`).
-/

namespace FieldDelta

open Files Syntax

/-! ## Declared modules -/

/-- The declaration of a module whose items are in a file of their own. -/
structure FileModule where
  /-- The inline modules around the declaration, the outermost first. -/
  around : List String
  name : String
  /-- The value of the attribute `path`. -/
  path? : Option String
deriving DecidableEq, Repr

namespace FileModule

mutual

/-- The declarations in an item, in source order.  Modules that are compiled for tests only are
    left out. -/
def ofItem (around : List String) : Item → List FileModule
  | .submodule attributes name (some contents) =>
    if attributes.any Attribute.isTestOnly then []
    else ofItems (around ++ [Naming.withoutRaw name]) contents
  | .submodule attributes name none =>
    if attributes.any Attribute.isTestOnly then []
    else [⟨around, Naming.withoutRaw name, pathAttribute? attributes⟩]
  | _ => []

def ofItems (around : List String) : List Item → List FileModule
  | [] => []
  | item :: rest => ofItem around item ++ ofItems around rest

end

/-- The path of the module, where `modulePath` is that of the file with the declaration. -/
def modulePath (declared : FileModule) (modulePath : String) : String :=
  declared.around.foldl (· ++ "::" ++ ·) modulePath ++ "::" ++ declared.name

/-- The files that the module may be in, the preferred one first.  `inner` is the directory of the
    file's submodules, and `own` the one that a path outside of inline modules starts from. -/
def places (declared : FileModule) (own inner : String) : List String :=
  let dir := declared.around.foldl Path.join inner
  match declared.path? with
  | some path => [Path.join (if declared.around.isEmpty then own else dir) path]
  | none => [Path.join dir (declared.name ++ ".rs"), Path.join (Path.join dir declared.name) "mod.rs"]

/-- The file that the module is in. -/
def file? (declared : FileModule) (tree : Tree) (own inner : String) : Option String :=
  (declared.places own inner).find? tree.isFile

end FileModule

/-! ## Files and rules -/

/-- How a file is reached. -/
inductive Reach where
  /-- As the root file of the crate in a directory. -/
  | root (dir : String)
  | byName
  | byPath
deriving DecidableEq, Repr

/-- A source file that was reached. -/
structure ModuleFile extends SourceFile where
  reach : Reach
deriving DecidableEq, Repr

namespace ModuleFile

/-- The directory that holds the file. -/
def ownDir (file : ModuleFile) : String :=
  match file.reach with
  | .root dir => dir
  | _ => (Path.parent? file.path).getD ""

def isCalledMod (file : ModuleFile) : Bool :=
  Path.stem? file.path == some "mod"

/-- The directory beside the file that is called like it. -/
def dirBeside (file : ModuleFile) : String :=
  match Path.stem? file.path with
  | some stem => Path.join file.ownDir stem
  | none => file.ownDir

/-- The modules that the file declares, if it can be read. -/
def fileModules (tree : Tree) (file : ModuleFile) : List FileModule :=
  match tree.readText file.path with
  | .ok text => ((parseFile? text).map (FileModule.ofItems [])).getD []
  | .error _ => []

end ModuleFile

/-- The directories in which the modules of a file are sought. -/
structure Rule where
  /-- Where a path outside of inline modules starts from. -/
  own : ModuleFile → String
  /-- The directory of submodules. -/
  inner : ModuleFile → String

namespace Rule

/-- What the compiler does. -/
def compiler : Rule where
  own := ModuleFile.ownDir
  inner file :=
    match file.reach with
    | .root dir => dir
    | .byPath => file.ownDir
    | .byName => if file.isCalledMod then file.ownDir else file.dirBeside

/-- One directory for both, which does not depend on how a file was reached. -/
def directDir (file : ModuleFile) : String :=
  match file.reach with
  | .root dir => dir
  | _ => childrenDir file.path

/-- What discovery does. -/
def direct : Rule where
  own := directDir
  inner := directDir

/-- The file of a module that is declared in `file`. -/
def find? (rule : Rule) (tree : Tree) (file : ModuleFile) (declared : FileModule) :
    Option ModuleFile :=
  (declared.file? tree (rule.own file) (rule.inner file)).map fun path =>
    { modulePath := declared.modulePath file.modulePath
      path := path
      reach := if declared.path?.isSome then .byPath else .byName }

/-- The files of the modules declared in a file.  Those without a file are left out. -/
def declared (rule : Rule) (tree : Tree) (file : ModuleFile) : List ModuleFile :=
  (file.fileModules tree).filterMap (rule.find? tree file)

end Rule

/-! ## Readings -/

/-- What is reached from `starts`, where only the files of `read` are followed. -/
inductive Reached (declared : ModuleFile → List ModuleFile) (starts read : List ModuleFile) :
    ModuleFile → Prop where
  | start {file : ModuleFile} (h_start : file ∈ starts) : Reached declared starts read file
  | declared {file next : ModuleFile} (h_file : Reached declared starts read file)
      (h_read : file ∈ read) (h_next : next ∈ declared file) : Reached declared starts read next

/-- The list holds what is reached from a crate's root file, each file once. -/
structure IsReading (declared : ModuleFile → List ModuleFile) (root : ModuleFile)
    (read : List ModuleFile) : Prop where
  root_mem : root ∈ read
  reached : ∀ file ∈ read, Reached declared [root] read file
  complete : ∀ file ∈ read, ∀ next ∈ declared file,
    ∃ other ∈ read, Path.same other.path next.path = true
  once : read.Pairwise fun a b => Path.same a.path b.path = false

namespace Reached

variable {declared declared' : ModuleFile → List ModuleFile}
  {starts starts' read read' : List ModuleFile} {file : ModuleFile}

/-- What is reached stays so, if the new starting points lead to the old ones. -/
theorem mono (h_reached : Reached declared starts read file) (h_read : read ⊆ read')
    (h_starts : ∀ start ∈ starts, Reached declared starts' read' start) :
    Reached declared starts' read' file := by
  induction h_reached with
  | start h_start => exact h_starts _ h_start
  | declared _ h_file h_next ih => exact .declared ih (h_read h_file) h_next

theorem congr (h_same : ∀ file ∈ read, declared file = declared' file)
    (h_reached : Reached declared starts read file) : Reached declared' starts read file := by
  induction h_reached with
  | start h_start => exact .start h_start
  | declared _ h_file h_next ih => exact .declared ih h_file (h_same _ h_file ▸ h_next)

end Reached

theorem IsReading.congr {declared declared' : ModuleFile → List ModuleFile} {root : ModuleFile}
    {read : List ModuleFile} (h_same : ∀ file ∈ read, declared file = declared' file)
    (h_reading : IsReading declared root read) : IsReading declared' root read where
  root_mem := h_reading.root_mem
  reached file h_file := (h_reading.reached file h_file).congr h_same
  complete file h_file := h_same file h_file ▸ h_reading.complete file h_file
  once := h_reading.once

/-! ## Displaced modules -/

/-- The module is sought in another directory than the compiler seeks it in: `path` starts from the
    directory beside the file instead of the one that holds it, or the file was reached by a path
    and is not called `mod`. -/
def FileModule.IsDisplaced (declared : FileModule) (file : ModuleFile) : Prop :=
  file.isCalledMod = false ∧
    (file.reach = .byPath ∨
      file.reach = .byName ∧ declared.path?.isSome ∧ declared.around = [])

instance (declared : FileModule) (file : ModuleFile) : Decidable (declared.IsDisplaced file) :=
  inferInstanceAs (Decidable (_ ∧ _))

theorem Rule.directDir_of_isCalledMod {file : ModuleFile} (h_mod : file.isCalledMod = true) :
    directDir file = file.ownDir := by
  have h_stem : Path.stem? file.path = some "mod" := beq_iff_eq.mp h_mod
  unfold directDir ModuleFile.ownDir childrenDir
  cases file.reach <;> simp [h_stem]

theorem Rule.directDir_of_not_isCalledMod {file : ModuleFile} (h_reach : ∀ dir, file.reach ≠ .root dir)
    (h_mod : file.isCalledMod = false) : directDir file = file.dirBeside := by
  have h_stem : Path.stem? file.path ≠ some "mod" := fun h_stem => by
    simp [ModuleFile.isCalledMod, h_stem] at h_mod
  unfold directDir ModuleFile.dirBeside ModuleFile.ownDir childrenDir
  cases h : file.reach with
  | root dir => exact absurd h (h_reach dir)
  | byName => cases h_stem' : Path.stem? file.path <;> simp_all
  | byPath => cases h_stem' : Path.stem? file.path <;> simp_all

/-- A module that is not displaced is sought where the compiler seeks it. -/
theorem Rule.places_direct {file : ModuleFile} {declared : FileModule}
    (h_place : ¬ declared.IsDisplaced file) :
    declared.places (direct.own file) (direct.inner file) =
      declared.places (compiler.own file) (compiler.inner file) := by
  cases h_mod : file.isCalledMod with
  | true =>
    have h_inner : compiler.inner file = file.ownDir := by
      unfold compiler ModuleFile.ownDir
      cases h_reach : file.reach <;> simp [h_mod, h_reach]
    rw [h_inner]
    exact congrArg₂ declared.places (directDir_of_isCalledMod h_mod)
      (directDir_of_isCalledMod h_mod)
  | false =>
    cases h_reach : file.reach with
    | root dir => simp [direct, compiler, directDir, ModuleFile.ownDir, h_reach]
    | byPath => exact absurd ⟨h_mod, .inl h_reach⟩ h_place
    | byName =>
      have h_dir : directDir file = file.dirBeside :=
        directDir_of_not_isCalledMod (by simp [h_reach]) h_mod
      have h_inner : compiler.inner file = file.dirBeside := by
        simp [compiler, h_reach, h_mod]
      change declared.places (directDir file) (directDir file) = declared.places file.ownDir _
      rw [h_inner, h_dir]
      -- The directory that a path starts from matters only outside of inline modules.
      unfold FileModule.places
      cases h_path : declared.path? with
      | none => rfl
      | some path =>
        have h_around : declared.around ≠ [] := fun h_around =>
          h_place ⟨h_mod, .inr ⟨h_reach, by simp [h_path], h_around⟩⟩
        simp [h_around]

theorem Rule.declared_direct {tree : Tree} {file : ModuleFile}
    (h_places : ∀ declared ∈ file.fileModules tree, ¬ declared.IsDisplaced file) :
    direct.declared tree file = compiler.declared tree file := by
  refine List.filterMap_congr fun declared h_declared => ?_
  rw [find?, find?, FileModule.file?, FileModule.file?, places_direct (h_places declared h_declared)]

/-! ## Discovery follows declarations -/

/-- The file as discovery keeps it in mind. -/
def ModuleFile.pending (file : ModuleFile) : PendingFile where
  toSourceFile := file.toSourceFile
  childrenDir := Rule.directDir file

section Declarations

variable (tree : Tree) (modulePath dir : String)

/-- What discovery keeps in mind of a declared module, where `dir` is the directory of
    submodules. -/
def FileModule.pending? (declared : FileModule) : Option PendingFile :=
  (declared.file? tree dir dir).map fun path =>
    { modulePath := declared.modulePath modulePath
      path := path
      childrenDir := childrenDir path }

theorem FileModule.pending?_mk (around : List String) (name : String) (attributes : List Attribute) :
    (FileModule.mk around name (pathAttribute? attributes)).pending? tree modulePath dir =
      (moduleFile? tree attributes name (around.foldl Path.join dir)).map fun path =>
        { modulePath := around.foldl (· ++ "::" ++ ·) modulePath ++ "::" ++ name
          path := path
          childrenDir := childrenDir path } := by
  unfold FileModule.pending? FileModule.file? FileModule.places moduleFile?
  cases h_around : around with
  | nil => rfl
  | cons => rfl

mutual

theorem declaredModule_eq (around : List String) : ∀ item : Item,
    declaredModule tree (around.foldl (· ++ "::" ++ ·) modulePath) (around.foldl Path.join dir) item =
      (FileModule.ofItem around item).filterMap (·.pending? tree modulePath dir)
  | .submodule attributes name (some contents) => by
    have h_contents := declaredModules_eq (around ++ [Naming.withoutRaw name]) contents
    rw [List.foldl_concat, List.foldl_concat] at h_contents
    rw [declaredModule, FileModule.ofItem]
    split
    · rfl
    · exact h_contents
  | .submodule attributes name none => by
    rw [declaredModule, FileModule.ofItem]
    split
    · rfl
    · simp only [List.filterMap_cons, List.filterMap_nil, FileModule.pending?_mk]
      cases moduleFile? tree attributes (Naming.withoutRaw name) (around.foldl Path.join dir) <;>
        rfl
  | .struct _ _ => rfl
  | .enum _ _ => rfl
  | .union _ _ => rfl
  | .use _ _ => rfl
  | .other => rfl

theorem declaredModules_eq (around : List String) : ∀ items : List Item,
    declaredModules tree (around.foldl (· ++ "::" ++ ·) modulePath) (around.foldl Path.join dir) items =
      (FileModule.ofItems around items).filterMap (·.pending? tree modulePath dir)
  | [] => rfl
  | item :: rest => by
    rw [declaredModules, FileModule.ofItems, List.filterMap_append, declaredModule_eq around item,
      declaredModules_eq around rest]

end

end Declarations

theorem ModuleFile.declared_pending {tree : Tree} {file : ModuleFile} {text : String}
    (h_text : tree.readText file.path = .ok text) :
    file.pending.declared tree text = (Rule.direct.declared tree file).map ModuleFile.pending := by
  have h_modules : file.fileModules tree =
      ((parseFile? text).map (FileModule.ofItems [])).getD [] := by
    rw [fileModules, h_text]
  rw [Rule.declared, h_modules]
  delta PendingFile.declared
  cases parseFile? text with
  | none => rfl
  | some items =>
    have h_find (declared : FileModule) :
        (Rule.direct.find? tree file declared).map ModuleFile.pending =
          declared.pending? tree file.modulePath (Rule.directDir file) := by
      rw [Rule.find?, FileModule.pending?, Option.map_map]
      congr 1
      funext path
      cases declared.path? <;> rfl
    simp only [Option.map_some, Option.getD_some, List.map_filterMap, h_find]
    exact declaredModules_eq tree file.modulePath (Rule.directDir file) [] items

/-! ## Reading each file once -/

theorem Rule.isFile_of_mem_declared {rule : Rule} {tree : Tree} {file next : ModuleFile}
    (h_next : next ∈ rule.declared tree file) : tree.isFile next.path = true := by
  obtain ⟨declared, -, h_find⟩ := List.mem_filterMap.mp h_next
  obtain ⟨path, h_path, rfl⟩ := Option.map_eq_some_iff.mp h_find
  exact List.find?_some h_path

theorem Rule.reach_of_mem_declared {rule : Rule} {tree : Tree} {file next : ModuleFile}
    (h_next : next ∈ rule.declared tree file) : next.reach = .byName ∨ next.reach = .byPath := by
  obtain ⟨declared, -, h_find⟩ := List.mem_filterMap.mp h_next
  obtain ⟨path, -, rfl⟩ := Option.map_eq_some_iff.mp h_find
  cases declared.path? with
  | none => exact .inl rfl
  | some path => exact .inr rfl

theorem Files.Path.same_comm (a b : String) : Path.same a b = Path.same b a :=
  Bool.beq_comm

/-- What is read from pending files on, where the files of `seen` are passed over. -/
structure Explored (declared : ModuleFile → List ModuleFile) (seen : List String)
    (pending read : List ModuleFile) : Prop where
  first : ∀ file rest, pending = file :: rest →
    (∀ path ∈ seen, Path.same path file.path = false) → file ∈ read
  reached : ∀ file ∈ read, Reached declared pending read file
  covered : ∀ file, Reached declared pending read file →
    ∃ path ∈ seen ++ read.map (·.path), Path.same path file.path = true
  fresh : ∀ file ∈ read, ∀ path ∈ seen, Path.same path file.path = false
  once : read.Pairwise fun a b => Path.same a.path b.path = false

namespace Explored

variable {declared : ModuleFile → List ModuleFile} {seen : List String}
  {pending skipped rest others : List ModuleFile} {file : ModuleFile}

theorem nil (h_seen : ∀ file ∈ pending, ∃ path ∈ seen, Path.same path file.path = true) :
    Explored declared seen pending [] where
  first file rest h_pending h_fresh := by
    obtain ⟨path, h_path, h_same⟩ := h_seen file (h_pending ▸ List.mem_cons_self ..)
    rw [h_fresh path h_path] at h_same
    cases h_same
  reached := nofun
  covered file h_file := by
    cases h_file with
    | start h_start => simpa using h_seen file h_start
    | declared _ h_read _ => cases h_read
  fresh := nofun
  once := .nil

/-- Behind files that are seen already, one is read, and then what it declares. -/
theorem cons (h_skipped : ∀ file ∈ skipped, ∃ path ∈ seen, Path.same path file.path = true)
    (h_fresh : ∀ path ∈ seen, Path.same path file.path = false)
    (h_others : Explored declared (file.path :: seen) ((declared file).reverse ++ rest) others) :
    Explored declared seen (skipped ++ file :: rest) (file :: others) where
  first next rest h_pending h_next := by
    cases skipped with
    | nil =>
      obtain ⟨rfl, -⟩ := List.cons.inj h_pending
      exact List.mem_cons_self ..
    | cons start skipped =>
      obtain ⟨rfl, -⟩ := List.cons.inj h_pending
      obtain ⟨path, h_path, h_same⟩ := h_skipped start (List.mem_cons_self ..)
      rw [h_next path h_path] at h_same
      cases h_same
  reached := by
    have h_file : Reached declared (skipped ++ file :: rest) (file :: others) file :=
      .start (by simp)
    refine List.forall_mem_cons.mpr ⟨h_file, fun other h_other => ?_⟩
    refine (h_others.reached other h_other).mono (List.subset_cons_self ..) fun start h_start => ?_
    rcases List.mem_append.mp h_start with h_declared | h_rest
    · exact .declared h_file (List.mem_cons_self ..) (List.mem_reverse.mp h_declared)
    · exact .start (by simp [h_rest])
  covered next h_next := by
    have h_later (h_reached : Reached declared ((declared file).reverse ++ rest) others next) :
        ∃ path ∈ seen ++ (file :: others).map (·.path), Path.same path next.path = true := by
      obtain ⟨path, h_path, h_same⟩ := h_others.covered next h_reached
      refine ⟨path, ?_, h_same⟩
      simp only [List.map_cons, List.mem_append, List.mem_cons] at h_path ⊢
      tauto
    cases h_next with
    | start h_start =>
      rcases List.mem_append.mp h_start with h_start | h_start
      · obtain ⟨path, h_path, h_same⟩ := h_skipped next h_start
        exact ⟨path, List.mem_append_left _ h_path, h_same⟩
      · rcases List.mem_cons.mp h_start with rfl | h_rest
        · exact ⟨next.path, by simp, Path.same_refl _⟩
        · exact h_later (.start (List.mem_append_right _ h_rest))
    | declared _ h_read h_declared =>
      rcases List.mem_cons.mp h_read with rfl | h_read
      · exact h_later (.start (by simp [h_declared]))
      · exact h_later (.declared (h_others.reached _ h_read) h_read h_declared)
  fresh := List.forall_mem_cons.mpr ⟨h_fresh, fun other h_other path h_path =>
    h_others.fresh other h_other path (List.mem_cons_of_mem _ h_path)⟩
  once := List.pairwise_cons.mpr ⟨fun other h_other =>
    h_others.fresh other h_other file.path (List.mem_cons_self ..), h_others.once⟩

end Explored

/-- A list is a part in which `p` holds, and behind it nothing or a value in which it does not. -/
theorem dropWhile_cases {α : Type} (p : α → Bool) (values : List α) :
    (values.dropWhile p = [] ∧ ∀ a ∈ values, p a = true) ∨
      ∃ skipped a rest, values = skipped ++ a :: rest ∧ values.dropWhile p = a :: rest ∧
        (∀ a ∈ skipped, p a = true) ∧ p a = false := by
  induction values with
  | nil => exact .inl ⟨rfl, nofun⟩
  | cons a values ih =>
    cases h_a : p a with
    | false => exact .inr ⟨[], a, values, rfl, by simp [h_a], nofun, h_a⟩
    | true =>
      rw [List.dropWhile_cons_of_pos h_a]
      rcases ih with ⟨h_nil, h_all⟩ | ⟨skipped, b, rest, rfl, h_drop, h_skipped, h_b⟩
      · exact .inl ⟨h_nil, List.forall_mem_cons.mpr ⟨h_a, h_all⟩⟩
      · exact .inr ⟨a :: skipped, b, rest, rfl, h_drop,
          List.forall_mem_cons.mpr ⟨h_a, h_skipped⟩, h_b⟩

theorem any_same_iff {seen : List String} {file : ModuleFile} :
    seen.any (Path.same file.pending.path) = true ↔
      ∃ path ∈ seen, Path.same path file.path = true := by
  rw [List.any_eq_true]
  simp only [Path.same_comm file.pending.path]
  rfl

/-- Exploring ends within its limit: what was seen and may still be read are different files. -/
theorem explore_eq {tree : Tree} (h_texts : tree.HoldsText) (limit : Nat) (seen : List String)
    (pending : List ModuleFile) (h_limit : pathCount ≤ limit + seen.length)
    (h_seen : seen.Pairwise fun a b => Path.same a b = false)
    (h_seen_files : ∀ path ∈ seen, tree.isFile path = true)
    (h_pending : ∀ file ∈ pending, tree.isFile file.path = true) :
    ∃ read, explore tree limit seen (pending.map ModuleFile.pending) =
        .ok (read.map (·.toSourceFile)) ∧
      Explored (Rule.direct.declared tree) seen pending read := by
  induction limit generalizing seen pending with
  | zero =>
    have h_nodup : seen.Nodup := h_seen.imp fun {a b} h_same h_eq => by
      rw [h_eq, Path.same_refl] at h_same
      cases h_same
    have h_length := Path.length_lt_pathCount h_nodup h_seen_files
    omega
  | succ limit ih =>
    rw [explore, List.dropWhile_map]
    rcases dropWhile_cases ((fun file => seen.any (Path.same file.path)) ∘ ModuleFile.pending) pending
      with ⟨h_drop, h_all⟩ | ⟨skipped, file, rest, rfl, h_drop, h_skipped, h_fresh⟩
    · rw [h_drop]
      exact ⟨[], rfl, .nil fun file h_file => any_same_iff.mp (h_all file h_file)⟩
    · rw [h_drop]
      simp only [List.forall_mem_append, List.forall_mem_cons] at h_pending
      obtain ⟨-, h_file, h_rest⟩ := h_pending
      have h_fresh : ∀ path ∈ seen, Path.same path file.path = false := by
        intro path h_path
        have h_none := mt any_same_iff.mpr (Bool.not_eq_true _ ▸ h_fresh)
        push Not at h_none
        exact Bool.eq_false_iff.mpr (h_none path h_path)
      obtain ⟨text, h_text⟩ := h_texts.readText_eq h_file
      obtain ⟨others, h_explore, h_others⟩ := ih (file.path :: seen)
        ((Rule.direct.declared tree file).reverse ++ rest)
        (by rw [List.length_cons]; omega)
        (List.pairwise_cons.mpr ⟨fun path h_path =>
          (Path.same_comm _ _).trans (h_fresh path h_path), h_seen⟩)
        (List.forall_mem_cons.mpr ⟨h_file, h_seen_files⟩)
        (List.forall_mem_append.mpr ⟨fun next h_next =>
          Rule.isFile_of_mem_declared (List.mem_reverse.mp h_next), h_rest⟩)
      refine ⟨file :: others, ?_, .cons (fun other h_other => any_same_iff.mp
        (h_skipped other h_other)) h_fresh h_others⟩
      rw [List.map_append, List.map_reverse, ← ModuleFile.declared_pending h_text] at h_explore
      have h_text : tree.readText file.pending.path = .ok text := h_text
      have h_explore : explore tree limit (file.pending.path :: seen)
          ((file.pending.declared tree text).reverse ++ rest.map ModuleFile.pending) = _ := h_explore
      simp only [List.map_cons, h_text, h_explore]
      rfl

/-! ## What discovery finds -/

theorem Explored.isReading {declared : ModuleFile → List ModuleFile} {root : ModuleFile}
    {read : List ModuleFile} (h_explored : Explored declared [] [root] read) :
    IsReading declared root read where
  root_mem := h_explored.first root [] rfl nofun
  reached := h_explored.reached
  complete file h_file next h_next := by
    obtain ⟨path, h_path, h_same⟩ :=
      h_explored.covered next (.declared (h_explored.reached file h_file) h_file h_next)
    obtain ⟨other, h_other, rfl⟩ := List.mem_map.mp h_path
    exact ⟨other, h_other, h_same⟩
  once := h_explored.once

/-- The root file of the crate in the directory `root`. -/
def ModuleFile.ofRoot (root path : String) : ModuleFile where
  modulePath := "crate"
  path := path
  reach := .root root

/-- In a tree of text files, discovery finds the crate with the given root file: what is reached
    from there by `Rule.direct`, each file once.  If no module on the way is displaced, that is
    what the compiler finds. -/
theorem discover_isReading (tree : Tree) (root path : String) (h_texts : tree.HoldsText)
    (h_root : rootFile? tree root = some path) :
    ∃ read, discover tree root = .ok (sortByPath (read.map (·.toSourceFile))) ∧
      IsReading (Rule.direct.declared tree) (.ofRoot root path) read ∧
      ((∀ file ∈ read, ∀ declared ∈ file.fileModules tree, ¬ declared.IsDisplaced file) →
        IsReading (Rule.compiler.declared tree) (.ofRoot root path) read) := by
  have h_file : tree.isFile path = true := List.find?_some h_root
  obtain ⟨read, h_explore, h_explored⟩ := explore_eq h_texts pathCount [] [.ofRoot root path]
    (Nat.le_add_right _ _) .nil nofun (List.forall_mem_singleton.mpr h_file)
  refine ⟨read, ?_, h_explored.isReading, fun h_places => h_explored.isReading.congr
    fun file h_file => Rule.declared_direct (h_places file h_file)⟩
  have h_pending : [ModuleFile.ofRoot root path].map ModuleFile.pending =
      [{ modulePath := "crate", path := path, childrenDir := root }] := rfl
  rw [h_pending] at h_explore
  simp only [discover, h_root, h_explore, Except.map]

/-- A crate of two files, in which nothing is displaced. -/
def straightTree : Tree where
  entries := [
    (["src"], .directory),
    (["src", "lib.rs"], .file (.text "mod a;")),
    (["src", "a.rs"], .file (.text "mod b;"))]

theorem discover_isReading_straightTree :
    straightTree.HoldsText ∧ rootFile? straightTree "src" = some "src/lib.rs" ∧
    ∃ read, discover straightTree "src" = .ok (sortByPath (read.map (·.toSourceFile))) ∧
      IsReading (Rule.compiler.declared straightTree) (.ofRoot "src" "src/lib.rs") read := by
  have h_texts : straightTree.HoldsText := by decide
  have h_root : rootFile? straightTree "src" = some "src/lib.rs" := by decide +kernel
  obtain ⟨read, h_discover, h_direct, h_compiler⟩ :=
    discover_isReading straightTree "src" "src/lib.rs" h_texts h_root
  refine ⟨h_texts, h_root, read, h_discover, h_compiler fun file h_file => ?_⟩
  have h_reached := h_direct.reached file h_file
  clear h_file
  have h_reached : file = .ofRoot "src" "src/lib.rs" ∨
      file = ⟨⟨"crate::a", "src/a.rs"⟩, .byName⟩ := by
    induction h_reached with
    | start h_start => exact .inl (List.mem_singleton.mp h_start)
    | @declared file next _ _ h_next ih =>
      have h_root_declared : Rule.direct.declared straightTree (.ofRoot "src" "src/lib.rs") =
          [⟨⟨"crate::a", "src/a.rs"⟩, .byName⟩] := by decide +kernel
      have h_declared : Rule.direct.declared straightTree ⟨⟨"crate::a", "src/a.rs"⟩, .byName⟩ = [] := by
        decide +kernel
      rcases ih with rfl | rfl
      · rw [h_root_declared] at h_next
        exact .inr (List.mem_singleton.mp h_next)
      · rw [h_declared] at h_next
        cases h_next
  rcases h_reached with rfl | rfl <;> decide +kernel

/-- A path outside of inline modules, in a file that is not called `mod`. -/
def displacingTree : Tree where
  entries := [
    (["src"], .directory),
    (["src", "lib.rs"], .file (.text "mod a;")),
    (["src", "a.rs"], .file (.text "#[path = \"b.rs\"] mod b;")),
    (["src", "b.rs"], .file (.text ""))]

theorem discover_displacingTree :
    discover displacingTree "src" =
      .ok (sortByPath [⟨"crate", "src/lib.rs"⟩, ⟨"crate::a", "src/a.rs"⟩]) := by
  have h_root : rootFile? displacingTree "src" = some "src/lib.rs" := by decide +kernel
  have h_explore : explore displacingTree pathCount []
      [{ modulePath := "crate", path := "src/lib.rs", childrenDir := "src" }] =
        .ok [⟨"crate", "src/lib.rs"⟩, ⟨"crate::a", "src/a.rs"⟩] := by decide +kernel
  rw [discover, h_root]
  exact congrArg (Except.map sortByPath) h_explore

theorem not_isReading_displacingTree :
    ¬ ∃ read, discover displacingTree "src" = .ok (sortByPath (read.map (·.toSourceFile))) ∧
      IsReading (Rule.compiler.declared displacingTree) (.ofRoot "src" "src/lib.rs") read := by
  rintro ⟨read, h_discover, h_reading⟩
  have h_read : ∀ file ∈ read, file.toSourceFile = ⟨"crate", "src/lib.rs"⟩ ∨
      file.toSourceFile = ⟨"crate::a", "src/a.rs"⟩ := by
    rw [discover_displacingTree] at h_discover
    have h_sorted := Except.ok.inj h_discover
    intro file h_file
    have h_mem : file.toSourceFile ∈ sortByPath (read.map (·.toSourceFile)) :=
      List.mem_mergeSort.mpr (List.mem_map_of_mem h_file)
    rw [← h_sorted] at h_mem
    simpa using List.mem_mergeSort.mp h_mem
  -- The root declares a.rs, which is read then, however it was reached.
  obtain ⟨file, h_file, h_same⟩ := h_reading.complete _ h_reading.root_mem
    ⟨⟨"crate::a", "src/a.rs"⟩, .byName⟩ (by decide +kernel)
  have h_source : file.toSourceFile = ⟨"crate::a", "src/a.rs"⟩ := by
    refine (h_read file h_file).resolve_left fun h_source => ?_
    rw [h_source] at h_same
    exact absurd h_same (by decide +kernel)
  have h_reach : file.reach = .byName ∨ file.reach = .byPath := by
    cases h_reading.reached file h_file with
    | start h_start =>
      rw [List.mem_singleton.mp h_start] at h_source
      exact absurd h_source (by decide)
    | declared _ _ h_next => exact Rule.reach_of_mem_declared h_next
  -- And a.rs declares b.rs, which is not read.
  have h_next : ⟨⟨"crate::a::b", "src/b.rs"⟩, .byPath⟩ ∈
      Rule.compiler.declared displacingTree file := by
    obtain ⟨source, reach⟩ := file
    obtain rfl : source = ⟨"crate::a", "src/a.rs"⟩ := h_source
    rcases h_reach with rfl | rfl <;> decide +kernel
  obtain ⟨other, h_other, h_same⟩ := h_reading.complete file h_file _ h_next
  rcases h_read other h_other with h_source | h_source <;> rw [h_source] at h_same <;>
    exact absurd h_same (by decide +kernel)

end FieldDelta
