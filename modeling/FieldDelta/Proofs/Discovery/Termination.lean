import FieldDelta.Proofs.Discovery

/-! # Discovery ends

Discovery takes one pending file after another.  A file whose path was read before is passed over;
any other is read, and what it declares is pending then.

* `Exploration`, `Exploration.pop?` — what discovery keeps in mind, and one step of it;
* `Pops` — several steps;
* `discover_terminates` — discovery ends, whatever the files declare, and reads each path once.

Two paths may lead to one file nevertheless, so a file can be read twice: but only if one of the
paths climbs, or if they begin differently (`Files.Tree.same_of_locate`).
-/

namespace FieldDelta

open Files Syntax

/-! ## Paths that lead to the same place -/

namespace Files

/-- Some component of the path leads out of a directory. -/
def Path.Climbs (path : String) : Prop :=
  Component.parent ∈ Path.components path

instance (path : String) : Decidable (Path.Climbs path) :=
  inferInstanceAs (Decidable (_ ∈ _))

namespace Tree

variable {tree : Tree}

/-- Names lead to where they say, as long as they do not climb. -/
theorem walk_eq_ok {location target : Location} {names : List String} (h_climb : ".." ∉ names)
    (h_walk : tree.walk location names = .ok target) :
    target = location ++ names.filter (· ≠ ".") := by
  induction names generalizing location with
  | nil =>
    obtain rfl : location = target := Except.ok.inj h_walk
    simp
  | cons name rest ih =>
    obtain ⟨h_name, h_rest⟩ := not_or.mp (mt List.mem_cons.mpr h_climb)
    rw [walk] at h_walk
    split at h_walk
    · cases h_walk
    by_cases h_dot : name = "."
    · rw [if_pos h_dot] at h_walk
      simpa [h_dot] using ih h_rest h_walk
    · rw [if_neg h_dot, if_neg (Ne.symm h_name)] at h_walk
      split at h_walk
      · cases h_walk
      split at h_walk
      · simpa [h_dot] using ih h_rest h_walk
      · cases h_walk

/-- The names of a path that does not climb are those of its components. -/
theorem filterMap_component? {pieces : List (List Char)} (h_climb : ['.', '.'] ∉ pieces) :
    pieces.filterMap Path.component? =
      ((pieces.filterMap fun piece =>
        if piece.isEmpty then none else some (String.ofList piece)).filter (· ≠ ".")).map
          Component.normal := by
  induction pieces with
  | nil => rfl
  | cons piece rest ih =>
    obtain ⟨h_piece, h_rest⟩ := not_or.mp (mt List.mem_cons.mpr h_climb)
    have h_dot : String.ofList piece = "." ↔ piece = ['.'] :=
      ⟨fun h_name => String.ofList_injective h_name, fun h_dot => h_dot ▸ rfl⟩
    have h_first : Path.component? piece =
        if piece = [] ∨ piece = ['.'] then none else some (.normal (String.ofList piece)) := by
      unfold Path.component?
      split
      · rfl
      · rfl
      · exact absurd rfl h_piece
      next h_empty h_single _ => rw [if_neg (not_or.mpr ⟨h_empty, h_single⟩)]
    rw [List.filterMap_cons, List.filterMap_cons, ih h_rest, h_first]
    by_cases h_empty : piece = []
    · simp [h_empty]
    · by_cases h_single : piece = ['.']
      · simp [h_single]
      · simp [h_empty, h_single, h_dot]

/-- The components of a path that does not climb are the names on the way to where it leads. -/
theorem components_of_locate {path : String} {location : Location}
    (h_locate : tree.locate path = .ok location) (h_climb : ¬ Path.Climbs path) :
    Path.components path = Path.beginning path ++ location.map Component.normal := by
  have h_pieces : ['.', '.'] ∉ Path.pieces path.toList := fun h_piece =>
    h_climb (List.mem_append_right _ (List.mem_filterMap.mpr ⟨_, h_piece, rfl⟩))
  have h_names : ".." ∉ pathNames path ++ endingNames path := by
    rw [List.mem_append, not_or]
    constructor
    · intro h_name
      obtain ⟨piece, h_piece, h_some⟩ := List.mem_filterMap.mp h_name
      split at h_some
      · cases h_some
      · have h_climbs : piece = ['.', '.'] := String.ofList_injective (Option.some.inj h_some)
        exact h_pieces (h_climbs ▸ h_piece)
    · unfold endingNames
      split <;> decide
  obtain ⟨_, -, h_walk⟩ := bind_eq_ok.mp h_locate
  have h_ending : (endingNames path).filter (· ≠ ".") = [] := by
    unfold endingNames
    split <;> rfl
  rw [walk_eq_ok h_names h_walk, List.nil_append, List.filter_append, h_ending, List.append_nil,
    Path.components, filterMap_component? h_pieces]
  rfl

/-- Paths that lead to one place are the same, if they begin alike and do not climb. -/
theorem same_of_locate {first second : String} {location : Location}
    (h_first : tree.locate first = .ok location) (h_second : tree.locate second = .ok location)
    (h_beginning : Path.beginning first = Path.beginning second)
    (h_climb : ¬ Path.Climbs first) (h_climb' : ¬ Path.Climbs second) :
    Path.same first second = true := by
  rw [Path.same, components_of_locate h_first h_climb, components_of_locate h_second h_climb',
    h_beginning]
  exact beq_self_eq_true _

end Tree
end Files

/-! ## The loop -/

/-- What discovery keeps in mind: the files that it has read, the last one first, and those that are
    still to be taken, the next one first. -/
structure Exploration where
  read : List PendingFile
  pending : List PendingFile
deriving DecidableEq, Repr

namespace Exploration

/-- The beginning, where the root file of a crate is pending. -/
def ofRoot (root path : String) : Exploration where
  read := []
  pending := [{ modulePath := "crate", path := path, childrenDir := root }]

/-- Takes the next pending file, if there is one. -/
def pop? (tree : Tree) (state : Exploration) : Option (Except SourceError Exploration) :=
  match state.pending with
  | [] => none
  | file :: rest =>
    if (state.read.map (·.path)).any (Path.same file.path) then
      some (.ok { state with pending := rest })
    else
      match tree.readText file.path with
      | .error cause => some (.error (.unreadable file.path cause))
      | .ok text =>
        some (.ok { read := file :: state.read, pending := (file.declared tree text).reverse ++ rest })

/-- What discovery answers if it ends here. -/
def answer? (tree : Tree) (state : Exploration) : Option (Except SourceError (List SourceFile)) :=
  match state.pop? tree with
  | none => some (.ok (state.read.reverse.map (·.toSourceFile)))
  | some (.error error) => some (.error error)
  | some (.ok _) => none

end Exploration

/-- One state leads to another by taking so many files. -/
inductive Pops (tree : Tree) : Nat → Exploration → Exploration → Prop where
  | none (state : Exploration) : Pops tree 0 state state
  | pop {count : Nat} {state next last : Exploration} (h_pop : state.pop? tree = some (.ok next))
      (h_rest : Pops tree count next last) : Pops tree (count + 1) state last

/-- The files that a file declares. -/
def PendingFile.declarations (tree : Tree) (file : PendingFile) : List PendingFile :=
  match tree.readText file.path with
  | .ok text => file.declared tree text
  | .error _ => []

/-! ## What every step keeps -/

theorem PendingFile.isFile_of_mem_declared {tree : Tree} {file next : PendingFile} {text : String}
    (h_next : next ∈ file.declared tree text) : tree.isFile next.path = true := by
  unfold declared at h_next
  split at h_next
  next items _ =>
    have h_eq := declaredModules_eq tree file.modulePath file.childrenDir [] items
    rw [List.foldl_nil, List.foldl_nil] at h_eq
    rw [h_eq] at h_next
    obtain ⟨declared, -, h_pending⟩ := List.mem_filterMap.mp h_next
    obtain ⟨path, h_path, rfl⟩ := Option.map_eq_some_iff.mp h_pending
    exact List.find?_some h_path
  next => cases h_next

namespace Exploration

variable {tree : Tree} {state next last : Exploration} {count : Nat}

/-- The paths read so far are different, and there is a file at every path. -/
structure IsSound (tree : Tree) (state : Exploration) : Prop where
  apart : state.read.Pairwise fun a b => Path.same a.path b.path = false
  isFile_read : ∀ file ∈ state.read, tree.isFile file.path = true
  isFile_pending : ∀ file ∈ state.pending, tree.isFile file.path = true

/-- What taking a file can do. -/
theorem pop?_cases (h_pop : state.pop? tree = some (.ok next)) :
    ∃ file rest, state.pending = file :: rest ∧
      (next = { state with pending := rest } ∨
        (∀ other ∈ state.read, Path.same file.path other.path = false) ∧
          next = { read := file :: state.read
                   pending := (file.declarations tree).reverse ++ rest }) := by
  unfold pop? at h_pop
  split at h_pop
  next => cases h_pop
  next file rest h_pending =>
    refine ⟨file, rest, h_pending, ?_⟩
    split at h_pop
    next =>
      cases h_pop
      exact .inl rfl
    next h_fresh =>
      split at h_pop
      next => cases h_pop
      next text h_text =>
        cases h_pop
        refine .inr ⟨fun other h_other => ?_, ?_⟩
        · simp only [List.any_map, List.any_eq_true, Function.comp_apply, not_exists, not_and,
            Bool.not_eq_true] at h_fresh
          exact h_fresh other h_other
        · rw [PendingFile.declarations, h_text]

theorem IsSound.pop? (h_sound : state.IsSound tree) (h_pop : state.pop? tree = some (.ok next)) :
    next.IsSound tree := by
  obtain ⟨file, rest, h_pending, rfl | ⟨h_fresh, rfl⟩⟩ := pop?_cases h_pop
  · exact ⟨h_sound.apart, h_sound.isFile_read, fun other h_other =>
      h_sound.isFile_pending other (h_pending ▸ List.mem_cons_of_mem _ h_other)⟩
  · have h_file := h_sound.isFile_pending file (h_pending ▸ List.mem_cons_self ..)
    refine ⟨List.pairwise_cons.mpr ⟨h_fresh, h_sound.apart⟩,
      List.forall_mem_cons.mpr ⟨h_file, h_sound.isFile_read⟩,
      List.forall_mem_append.mpr ⟨fun other h_other => ?_, fun other h_other => ?_⟩⟩
    · rw [List.mem_reverse, PendingFile.declarations] at h_other
      split at h_other
      next => exact PendingFile.isFile_of_mem_declared h_other
      next => cases h_other
    · exact h_sound.isFile_pending other (h_pending ▸ List.mem_cons_of_mem _ h_other)

/-- How many files were pending so far. -/
def announced (tree : Tree) (state : Exploration) : Nat :=
  1 + (state.read.map fun file => (file.declarations tree).length).sum

/-- Every file that is taken was pending before. -/
theorem announced_pop? (h_pop : state.pop? tree = some (.ok next)) (count : Nat)
    (h_count : count + state.pending.length = state.announced tree) :
    count + 1 + next.pending.length = next.announced tree := by
  obtain ⟨file, rest, h_pending, rfl | ⟨-, rfl⟩⟩ := pop?_cases h_pop
  · rw [h_pending, List.length_cons] at h_count
    change count + 1 + rest.length = state.announced tree
    omega
  · rw [h_pending, List.length_cons] at h_count
    simp only [announced, List.map_cons, List.sum_cons, List.length_append,
      List.length_reverse] at h_count ⊢
    omega

end Exploration

/-! ## Whole runs -/

section Exploring

variable {tree : Tree} {limit : Nat} {seen : List String} {file : PendingFile}
  {pending : List PendingFile}

theorem explore_of_seen (h_seen : seen.any (Path.same file.path) = true) :
    explore tree (limit + 1) seen (file :: pending) = explore tree (limit + 1) seen pending := by
  rw [explore, explore]
  simp only [List.dropWhile_cons, h_seen, if_true]

theorem explore_of_error {cause : SystemError} (h_fresh : seen.any (Path.same file.path) = false)
    (h_text : tree.readText file.path = .error cause) :
    explore tree (limit + 1) seen (file :: pending) = .error (.unreadable file.path cause) := by
  rw [explore]
  simp [h_fresh, h_text]

theorem explore_of_text {text : String} (h_fresh : seen.any (Path.same file.path) = false)
    (h_text : tree.readText file.path = .ok text) :
    explore tree (limit + 1) seen (file :: pending) =
      (explore tree limit (file.path :: seen) ((file.declared tree text).reverse ++ pending)).map
        (file.toSourceFile :: ·) := by
  rw [explore]
  simp only [List.dropWhile_cons, h_fresh, Bool.false_eq_true, if_false, h_text]
  cases explore tree limit (file.path :: seen) ((file.declared tree text).reverse ++ pending) <;> rfl

end Exploring

namespace Exploration

variable {tree : Tree} {state next last : Exploration} {count : Nat}

/-- What one step keeps holds after several. -/
theorem IsSound.pops (h_pops : Pops tree count state last) (h_sound : state.IsSound tree) :
    last.IsSound tree := by
  induction h_pops with
  | none => exact h_sound
  | pop h_pop _ ih => exact ih (h_sound.pop? h_pop)

theorem announced_pops (h_pops : Pops tree count state last) (before : Nat)
    (h_count : before + state.pending.length = state.announced tree) :
    before + count + last.pending.length = last.announced tree := by
  induction h_pops generalizing before with
  | none => exact h_count
  | pop h_pop _ ih =>
    rw [← ih (before + 1) (announced_pop? h_pop before h_count)]
    omega

theorem IsSound.length_read_lt (h_sound : state.IsSound tree) : state.read.length < pathCount := by
  have h_nodup : (state.read.map (·.path)).Nodup := by
    refine List.pairwise_map.mpr (h_sound.apart.imp fun {a b} h_apart h_eq => ?_)
    rw [h_eq, Path.same_refl] at h_apart
    cases h_apart
  rw [← List.length_map (·.path)]
  exact Path.length_lt_pathCount h_nodup (List.forall_mem_map.mpr h_sound.isFile_read)

/-- What discovery finds from a state on. -/
def rest (tree : Tree) (limit : Nat) (state : Exploration) : Except SourceError (List SourceFile) :=
  (explore tree limit (state.read.map (·.path)) state.pending).map
    (state.read.reverse.map (·.toSourceFile) ++ ·)

/-- Discovery answers what the loop ends with: the limit is never reached, since there are fewer
    paths of files. -/
theorem exists_pops (limit : Nat) (state : Exploration) (h_sound : state.IsSound tree)
    (h_limit : pathCount ≤ limit + state.read.length) :
    ∃ count last, Pops tree count state last ∧ last.answer? tree = some (state.rest tree limit) := by
  induction limit generalizing state with
  | zero =>
    have h_length := h_sound.length_read_lt
    omega
  | succ limit ih =>
    obtain ⟨read, pending⟩ := state
    induction pending with
    | nil => exact ⟨0, _, .none _, by simp [answer?, pop?, Exploration.rest, explore, Except.map]⟩
    | cons file pending ih_pending =>
      cases h_seen : (read.map (·.path)).any (Path.same file.path) with
      | true =>
        have h_pop : pop? tree ⟨read, file :: pending⟩ = some (.ok ⟨read, pending⟩) := by
          simp only [pop?, h_seen, if_true]
        obtain ⟨count, last, h_pops, h_answer⟩ := ih_pending (h_sound.pop? h_pop) h_limit
        refine ⟨count + 1, last, .pop h_pop h_pops, ?_⟩
        rw [h_answer, Exploration.rest, Exploration.rest, explore_of_seen h_seen]
      | false =>
        cases h_text : tree.readText file.path with
        | error cause =>
          have h_pop : pop? tree ⟨read, file :: pending⟩ =
              some (.error (.unreadable file.path cause)) := by
            simp [pop?, h_seen, h_text]
          refine ⟨0, _, .none _, ?_⟩
          rw [Exploration.rest, explore_of_error h_seen h_text, answer?, h_pop]
          rfl
        | ok text =>
          have h_pop : pop? tree ⟨read, file :: pending⟩ =
              some (.ok ⟨file :: read, (file.declared tree text).reverse ++ pending⟩) := by
            simp [pop?, h_seen, h_text]
          obtain ⟨count, last, h_pops, h_answer⟩ := ih _ (h_sound.pop? h_pop)
            (by simp only [List.length_cons] at h_limit ⊢; omega)
          refine ⟨count + 1, last, .pop h_pop h_pops, ?_⟩
          rw [h_answer, Exploration.rest, Exploration.rest, explore_of_text h_seen h_text]
          simp only [List.map_cons, List.reverse_cons, List.map_append]
          cases explore tree limit (file.path :: read.map (·.path))
            ((file.declared tree text).reverse ++ pending) with
          | error => rfl
          | ok others => simp [Except.map]

end Exploration

/-- Discovery ends: after so many steps nothing is pending, or a file cannot be read.  Up to there
    fewer than `pathCount` files are read, each path once, and as many are taken as were declared.  A
    file is read twice only under paths of which one climbs, or that begin differently. -/
theorem discover_terminates (tree : Tree) (root path : String)
    (h_root : rootFile? tree root = some path) :
    (∃ count last answer, Pops tree count (.ofRoot root path) last ∧
      last.answer? tree = some answer ∧ discover tree root = answer.map sortByPath) ∧
    ∀ count state, Pops tree count (.ofRoot root path) state →
      state.read.length < pathCount ∧
      count + state.pending.length =
        1 + (state.read.map fun file => (file.declarations tree).length).sum ∧
      state.read.Pairwise fun a b =>
        Path.same a.path b.path = false ∧
          (tree.locate a.path = tree.locate b.path →
            Path.Climbs a.path ∨ Path.Climbs b.path ∨
              Path.beginning a.path ≠ Path.beginning b.path) := by
  have h_sound : (Exploration.ofRoot root path).IsSound tree :=
    ⟨.nil, nofun, List.forall_mem_singleton.mpr (List.find?_some h_root)⟩
  constructor
  · obtain ⟨count, last, h_pops, h_answer⟩ :=
      Exploration.exists_pops pathCount _ h_sound (Nat.le_add_right _ _)
    refine ⟨count, last, _, h_pops, h_answer, ?_⟩
    rw [discover, h_root, Exploration.rest]
    simp only [Exploration.ofRoot, List.map_nil, List.reverse_nil, List.nil_append]
    cases explore tree pathCount [] [{ modulePath := "crate", path := path, childrenDir := root }] <;>
      rfl
  · intro count state h_pops
    have h_sound := h_sound.pops h_pops
    have h_count := Exploration.announced_pops h_pops 0 rfl
    rw [Nat.zero_add] at h_count
    refine ⟨h_sound.length_read_lt, h_count, ?_⟩
    refine h_sound.apart.imp_of_mem fun {a b} h_a _ h_apart => ⟨h_apart, fun h_locate => ?_⟩
    obtain ⟨_, h_lookup⟩ := Tree.isFile_iff.mp (h_sound.isFile_read a h_a)
    obtain ⟨location, h_first, -⟩ := Tree.lookup_eq_ok h_lookup
    by_contra h_plain
    rw [not_or, not_or, not_not] at h_plain
    obtain ⟨h_climb, h_climb', h_beginning⟩ := h_plain
    rw [Tree.same_of_locate h_first (h_locate ▸ h_first) h_beginning h_climb h_climb'] at h_apart
    cases h_apart

/-- A crate whose root file declares itself as a module, under a path that climbs. -/
def returningTree : Tree where
  entries := [
    (["src"], .directory),
    (["src", "lib.rs"], .file (.text "#[path = \"../src/lib.rs\"] mod again;"))]

theorem discover_terminates_returningTree :
    rootFile? returningTree "src" = some "src/lib.rs" ∧
    ∃ count last answer, Pops returningTree count (.ofRoot "src" "src/lib.rs") last ∧
      last.answer? returningTree = some answer ∧
      discover returningTree "src" = answer.map sortByPath ∧ last.read.length < pathCount := by
  have h_root : rootFile? returningTree "src" = some "src/lib.rs" := by decide +kernel
  obtain ⟨⟨count, last, answer, h_pops, h_answer, h_discover⟩, h_all⟩ :=
    discover_terminates returningTree "src" "src/lib.rs" h_root
  exact ⟨h_root, count, last, answer, h_pops, h_answer, h_discover, (h_all count last h_pops).1⟩

/-- The root file is read twice, the second time as a module of its own. -/
theorem not_once_returningTree :
    discover returningTree "src" = .ok (sortByPath
      [⟨"crate", "src/lib.rs"⟩, ⟨"crate::again", "src/../src/lib.rs"⟩]) ∧
    ¬ ∀ count state, Pops returningTree count (.ofRoot "src" "src/lib.rs") state →
      state.read.Pairwise fun a b => returningTree.locate a.path ≠ returningTree.locate b.path := by
  constructor
  · have h_root : rootFile? returningTree "src" = some "src/lib.rs" := by decide +kernel
    have h_explore : explore returningTree pathCount []
        [{ modulePath := "crate", path := "src/lib.rs", childrenDir := "src" }] =
          .ok [⟨"crate", "src/lib.rs"⟩, ⟨"crate::again", "src/../src/lib.rs"⟩] := by decide +kernel
    rw [discover, h_root]
    exact congrArg (Except.map sortByPath) h_explore
  · intro h_once
    have h_first : (Exploration.ofRoot "src" "src/lib.rs").pop? returningTree =
        some (.ok ⟨[⟨⟨"crate", "src/lib.rs"⟩, "src"⟩],
          [⟨⟨"crate::again", "src/../src/lib.rs"⟩, "src/../src/lib"⟩]⟩) := by decide +kernel
    have h_second : Exploration.pop? returningTree ⟨[⟨⟨"crate", "src/lib.rs"⟩, "src"⟩],
        [⟨⟨"crate::again", "src/../src/lib.rs"⟩, "src/../src/lib"⟩]⟩ =
          some (.ok ⟨[⟨⟨"crate::again", "src/../src/lib.rs"⟩, "src/../src/lib"⟩,
            ⟨⟨"crate", "src/lib.rs"⟩, "src"⟩], []⟩) := by decide +kernel
    have h_apart := h_once 2 _ (.pop h_first (.pop h_second (.none _)))
    revert h_apart
    decide +kernel

end FieldDelta
