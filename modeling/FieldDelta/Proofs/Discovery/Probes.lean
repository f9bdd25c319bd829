import FieldDelta.Proofs.Discovery

/-! # What discovery looks at

Discovery asks of some paths whether there is a file, and reads some of the files.  Everything else
in the tree is nothing to it: where two trees agree on these paths, it finds the same.

* `probed` — the places that are asked about, up to the first file;
* `explored`, `consulted` — the paths of a discovery;
* `Agrees` — one tree answers like another one;
* `discover_of_agrees` — what comes of it.
-/

namespace FieldDelta

open Files Syntax

/-! ## The paths -/

/-- The places that are asked about, where a file is sought. -/
def probed (tree : Tree) : List String → List String
  | [] => []
  | place :: rest => place :: if tree.isFile place then [] else probed tree rest

/-- The places that are asked about for the modules declared in a text. -/
def PendingFile.probed (file : PendingFile) (tree : Tree) (text : String) : List String :=
  match parseFile? text with
  | some items =>
    (FileModule.ofItems [] items).flatMap fun declared =>
      FieldDelta.probed tree (declared.places file.childrenDir file.childrenDir)
  | none => []

/-- The paths that are looked at while pending files are read. -/
def explored (tree : Tree) : Nat → List String → List PendingFile → List String
  | 0, _, _ => []
  | limit + 1, seen, pending =>
    match pending.dropWhile fun file => seen.any (Path.same file.path) with
    | [] => []
    | file :: rest =>
      file.path ::
        match tree.readText file.path with
        | .error _ => []
        | .ok text =>
          file.probed tree text ++
            explored tree limit (file.path :: seen) ((file.declared tree text).reverse ++ rest)

/-- The paths that are looked at while the sources of a crate are discovered. -/
def consulted (tree : Tree) (root : String) : List String :=
  probed tree [Path.join root "lib.rs", Path.join root "main.rs"] ++
    match rootFile? tree root with
    | some path =>
      explored tree pathCount [] [{ modulePath := "crate", path := path, childrenDir := root }]
    | none => []

/-! ## Trees that agree -/

/-- Along the paths, the second tree has files where the first one has, and reads the same. -/
def Agrees (before after : Tree) (paths : List String) : Prop :=
  ∀ path ∈ paths, after.isFile path = before.isFile path ∧
    ∀ text, before.readText path = .ok text → after.readText path = .ok text

namespace Agrees

variable {before after : Tree} {paths more places : List String}

theorem mono (h_agrees : Agrees before after paths) (h_subset : more ⊆ paths) :
    Agrees before after more :=
  fun path h_path => h_agrees path (h_subset h_path)

theorem append (h_paths : Agrees before after paths) (h_more : Agrees before after more) :
    Agrees before after (paths ++ more) :=
  fun path h_path => (List.mem_append.mp h_path).elim (h_paths path) (h_more path)

theorem find? (h_agrees : Agrees before after (probed before places)) :
    places.find? after.isFile = places.find? before.isFile := by
  induction places with
  | nil => rfl
  | cons place rest ih =>
    obtain ⟨h_place, h_rest⟩ := List.forall_mem_cons.mp h_agrees
    rw [List.find?_cons, List.find?_cons, h_place.1]
    cases h_file : before.isFile place with
    | true => rfl
    | false =>
      rw [h_file] at h_rest
      exact ih h_rest

theorem declared {file : PendingFile} {text : String}
    (h_agrees : Agrees before after (file.probed before text)) :
    file.declared after text = file.declared before text := by
  unfold PendingFile.probed at h_agrees
  unfold PendingFile.declared
  split
  next items h_items =>
    rw [h_items] at h_agrees
    have h_after := declaredModules_eq after file.modulePath file.childrenDir [] items
    have h_before := declaredModules_eq before file.modulePath file.childrenDir [] items
    rw [List.foldl_nil, List.foldl_nil] at h_after h_before
    rw [h_after, h_before]
    apply List.filterMap_congr
    intro declared h_declared
    have h_places := h_agrees.mono fun path h_path =>
      List.mem_flatMap.mpr ⟨declared, h_declared, h_path⟩
    rw [FileModule.pending?, FileModule.pending?, FileModule.file?, FileModule.file?,
      h_places.find?]
  next => rfl

/-- Where the trees agree, exploring finds the same files, and all of them are looked at. -/
theorem explore {limit : Nat} {seen : List String} {pending : List PendingFile}
    {files : List SourceFile} (h_agrees : Agrees before after (explored before limit seen pending))
    (h_files : FieldDelta.explore before limit seen pending = .ok files) :
    FieldDelta.explore after limit seen pending = .ok files ∧
      ∀ file ∈ files, file.path ∈ explored before limit seen pending := by
  induction limit generalizing seen pending files with
  | zero =>
    cases h_files
    exact ⟨rfl, nofun⟩
  | succ limit ih =>
    rw [explored] at h_agrees ⊢
    rw [FieldDelta.explore] at h_files ⊢
    cases h_pending : pending.dropWhile fun file => seen.any (Path.same file.path) with
    | nil =>
      rw [h_pending] at h_files
      cases h_files
      exact ⟨rfl, nofun⟩
    | cons file rest =>
      simp only [h_pending] at h_agrees h_files ⊢
      cases h_text : before.readText file.path with
      | error cause =>
        rw [h_text] at h_files
        cases h_files
      | ok text =>
        simp only [h_text] at h_agrees h_files ⊢
        -- The file comes first, then the places of what it declares, then what is left.
        obtain ⟨h_file, h_behind⟩ := List.forall_mem_cons.mp h_agrees
        obtain ⟨h_probed, h_rest⟩ := List.forall_mem_append.mp h_behind
        simp only [h_file.2 text h_text, declared h_probed]
        split at h_files
        next => cases h_files
        next others h_others =>
          cases h_files
          obtain ⟨h_same, h_mem⟩ := ih h_rest h_others
          rw [h_same]
          refine ⟨rfl, List.forall_mem_cons.mpr ⟨.head _, fun other h_other => ?_⟩⟩
          exact .tail _ (List.mem_append_right _ (h_mem other h_other))

end Agrees

/-- Where the trees agree on what a discovery looks at, it finds the same in both. -/
theorem discover_of_agrees {before after : Tree} {root : String} {files : List SourceFile}
    (h_agrees : Agrees before after (consulted before root))
    (h_files : discover before root = .ok files) :
    discover after root = .ok files ∧ ∀ file ∈ files, file.path ∈ consulted before root := by
  unfold consulted at h_agrees ⊢
  obtain ⟨h_root, h_explored⟩ := List.forall_mem_append.mp h_agrees
  have h_same : rootFile? after root = rootFile? before root := Agrees.find? h_root
  unfold discover at h_files ⊢
  rw [h_same]
  cases h_path : rootFile? before root with
  | none =>
    rw [h_path] at h_files
    cases h_files
  | some path =>
    simp only [h_path] at h_explored h_files ⊢
    cases h_explore : explore before pathCount []
        [{ modulePath := "crate", path := path, childrenDir := root }] with
    | error cause =>
      rw [h_explore] at h_files
      cases h_files
    | ok found =>
      obtain ⟨h_found, h_mem⟩ := Agrees.explore h_explored h_explore
      rw [h_explore] at h_files
      cases h_files
      rw [h_found]
      refine ⟨rfl, fun file h_file => List.mem_append_right _ (h_mem file ?_)⟩
      exact (List.mergeSort_perm _ _).mem_iff.mp h_file

end FieldDelta
