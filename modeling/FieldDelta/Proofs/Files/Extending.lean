import FieldDelta.Proofs.Files.Writing

/-! # Extending a tree

Making directories and writing files extends a tree: the directories are new, the files are those
that were written, and everything else is as it was.  What is seen along a path can change only
where the path leads through one of the new directories, or to one of the files.

* `Tree.Extends` — how a tree may come out of another one;
* `Tree.makeDirectories_extends`, `Tree.makeDirectories_again` — directories are made once;
* `Tree.Avoids` — the paths along which nothing has changed;
* `Tree.Extends.isFile_eq`, `Tree.Extends.readText_eq` — what is seen along them.
-/

namespace FieldDelta.Files.Tree

variable {tree middle before after : Tree} {path name : String}

/-! ## Growing again -/

theorem Grows.refl (tree : Tree) : tree.Grows tree :=
  ⟨fun _ => id, fun _ => id⟩

theorem Grows.trans (h_first : tree.Grows middle) (h_second : middle.Grows after) :
    tree.Grows after where
  directory location := h_second.directory location ∘ h_first.directory location
  isSome location := h_second.isSome location ∘ h_first.isSome location

theorem Grows.locate {location : Location} (h_grows : tree.Grows after)
    (h_locate : tree.locate path = .ok location) : after.locate path = .ok location := by
  obtain ⟨_, h_checked, h_walk⟩ := bind_eq_ok.mp h_locate
  exact bind_eq_ok.mpr ⟨_, h_checked, h_grows.walk h_walk⟩

theorem lookup_of_node {location : Location} {node : Node}
    (h_locate : tree.locate path = .ok location) (h_node : tree.node? location = some node) :
    tree.lookup path = .ok node := by
  refine bind_eq_ok.mpr ⟨location, h_locate, ?_⟩
  rw [h_node]
  rfl

theorem isDirectory_iff : tree.isDirectory path = true ↔
    ∃ location, tree.locate path = .ok location ∧ tree.node? location = some .directory := by
  unfold isDirectory
  constructor
  · split
    next h_lookup => exact fun _ => lookup_eq_ok h_lookup
    next => nofun
  · rintro ⟨location, h_locate, h_node⟩
    rw [lookup_of_node h_locate h_node]

theorem Grows.isDirectory (h_grows : tree.Grows after)
    (h_directory : tree.isDirectory path = true) :
    after.isDirectory path = true := by
  obtain ⟨location, h_locate, h_node⟩ := isDirectory_iff.mp h_directory
  exact isDirectory_iff.mpr ⟨location, h_grows.locate h_locate, h_grows.directory _ h_node⟩

/-! ## Extensions -/

/-- Nothing goes away, and what is new is a directory or stands at one of the outputs. -/
structure Extends (before after : Tree) (outputs : Location → Prop) : Prop where
  grows : before.Grows after
  kept : ∀ location, after.node? location = before.node? location ∨ outputs location ∨
    before.node? location = none ∧ after.node? location = some .directory

namespace Extends

variable {outputs others : Location → Prop}

theorem refl (tree : Tree) (outputs : Location → Prop) : tree.Extends tree outputs :=
  ⟨.refl tree, fun _ => .inl rfl⟩

theorem trans (h_first : tree.Extends middle outputs) (h_second : middle.Extends after outputs) :
    tree.Extends after outputs := by
  refine ⟨h_first.grows.trans h_second.grows, fun location => ?_⟩
  rcases h_second.kept location with h_kept | h_output | ⟨h_none, h_directory⟩
  · rw [h_kept]
    exact h_first.kept location
  · exact .inr (.inl h_output)
  · rcases h_first.kept location with h_kept | h_output | ⟨-, h_made⟩
    · exact .inr (.inr ⟨h_kept ▸ h_none, h_directory⟩)
    · exact .inr (.inl h_output)
    · rw [h_none] at h_made
      cases h_made

theorem mono (h_extends : before.Extends after outputs)
    (h_outputs : ∀ location, outputs location → others location) : before.Extends after others :=
  ⟨h_extends.grows, fun location => (h_extends.kept location).imp_right
    (Or.imp_left (h_outputs location))⟩

end Extends

theorem extends_put_directory {location : Location} (h_free : tree.node? location = none)
    (outputs : Location → Prop) : tree.Extends (tree.put location .directory) outputs := by
  have h_location : location ≠ [] := by
    rintro rfl
    cases h_free
  refine ⟨grows_put _ (by simp [h_free]), fun other => ?_⟩
  by_cases h_other : other = location
  · subst h_other
    exact .inr (.inr ⟨h_free, node?_put tree other h_location _⟩)
  · exact .inl (node?_put_of_ne tree h_other _)

theorem extends_put_file {location : Location} (contents : Contents)
    (h_free : tree.node? location ≠ some .directory) :
    tree.Extends (tree.put location (.file contents)) (· = location) := by
  refine ⟨grows_put _ h_free, fun other => ?_⟩
  by_cases h_other : other = location
  · exact .inr (.inl h_other)
  · exact .inl (node?_put_of_ne tree h_other _)

/-! ## Making directories -/

theorem makeDirectory_eq_ok (h_make : tree.makeDirectory path = .ok after)
    (outputs : Location → Prop) :
    tree.Extends after outputs ∧ after.isDirectory path = true := by
  obtain ⟨⟨parent, _ | name⟩, h_parent, h_make⟩ := bind_eq_ok.mp h_make
  · cases h_make
  · dsimp only at h_make
    split at h_make
    next => cases h_make
    next h_free =>
      rw [Option.not_isSome_iff_eq_none] at h_free
      obtain rfl := Except.ok.inj h_make
      have h_ends := locateParent_eq_ok h_parent
      have h_locate := h_ends.locate_put .directory (by simp [h_free]) (.inr rfl)
      exact ⟨extends_put_directory h_free outputs,
        isDirectory_iff.mpr ⟨_, h_locate, node?_put tree _ (by simp) _⟩⟩

theorem walk_dot {location : Location} (h_directory : tree.node? location = some .directory) :
    tree.walk location ["."] = .ok location := by
  simp [walk, h_directory]

/-- A dot in front of a name leads nowhere. -/
theorem walk_dot_cons (tree : Tree) (location : Location) (name : String) (rest : List String) :
    tree.walk location ("." :: name :: rest) = tree.walk location (name :: rest) := by
  rw [walk]
  split
  next h_other => rw [walk, if_pos h_other]
  next => rw [if_pos rfl]

/-- Where a path leads somewhere, something bears its last name. -/
theorem locateParent_of_locate {location : Location} (h_locate : tree.locate path = .ok location) :
    ∃ parent last, tree.locateParent path = .ok (parent, last) ∧
      ∀ name ∈ last, (tree.node? (parent ++ [name])).isSome := by
  obtain ⟨_, h_checked, h_walk⟩ := bind_eq_ok.mp h_locate
  rw [walk_append] at h_walk
  obtain ⟨reached, h_walk, -⟩ := bind_eq_ok.mp h_walk
  cases h_last : (pathNames path).getLast? with
  | none =>
    -- A path without names is the root, which stands in no directory.
    rw [List.getLast?_eq_none_iff] at h_last
    refine ⟨[], none, ?_, nofun⟩
    simp [locateParent, h_checked, h_last, walk_dot, node?, bind, Except.bind, pure, Except.pure]
  | some name =>
    obtain ⟨front, h_names⟩ := List.getLast?_eq_some_iff.mp h_last
    rw [h_names, walk_append] at h_walk
    obtain ⟨parent, h_front, h_name⟩ := bind_eq_ok.mp h_walk
    rw [walk] at h_name
    split at h_name
    next => cases h_name
    next h_directory =>
      have h_dot : tree.walk [] ((pathNames path).dropLast ++ ["."]) = .ok parent := by
        rw [h_names, List.dropLast_concat, walk_append]
        exact bind_eq_ok.mpr ⟨parent, h_front, walk_dot (not_not.mp h_directory)⟩
      by_cases h_dots : name = "." ∨ name = ".."
      · -- Dots lead to a directory, but are not its name.
        refine ⟨parent, none, ?_, nofun⟩
        simp [locateParent, h_checked, h_dot, h_last, h_dots, bind, Except.bind, pure, Except.pure]
      · obtain ⟨h_current, h_up⟩ := not_or.mp h_dots
        rw [if_neg h_current, if_neg h_up] at h_name
        split at h_name
        next => cases h_name
        next h_size =>
          split at h_name
          next h_there =>
            refine ⟨parent, some name, ?_, ?_⟩
            · simp [locateParent, h_checked, h_dot, h_last, h_dots, h_size, bind, Except.bind, pure,
                Except.pure]
            · intro other h_other
              rwa [← Option.some.inj h_other]
          next => cases h_name

/-- A directory that is there is not made. -/
theorem makeDirectory_of_isDirectory (h_directory : tree.isDirectory path = true) :
    tree.makeDirectory path = .error .alreadyThere := by
  obtain ⟨location, h_locate, -⟩ := isDirectory_iff.mp h_directory
  obtain ⟨parent, last, h_parent, h_there⟩ := locateParent_of_locate h_locate
  rw [makeDirectory, h_parent]
  cases last with
  | none => rfl
  | some name => exact if_pos (h_there name rfl)

/-- Making a directory and those around it, the directory is there in the end. -/
theorem makeInnermost_eq_ok {paths : List String}
    (h_make : tree.makeInnermost paths = (.ok (), after)) (outputs : Location → Prop) :
    tree.Extends after outputs ∧ ∀ path ∈ paths.head?, after.isDirectory path = true := by
  induction paths generalizing tree after with
  | nil =>
    cases h_make
    exact ⟨.refl _ _, nofun⟩
  | cons path outer ih =>
    have h_head {made : Tree} (h_path : made.isDirectory path = true) :
        ∀ other ∈ (path :: outer).head?, made.isDirectory other = true := by
      rintro _ ⟨⟩
      exact h_path
    simp only [makeInnermost] at h_make
    split at h_make
    next made h_path =>
      cases h_make
      obtain ⟨h_extends, h_directory⟩ := makeDirectory_eq_ok h_path outputs
      exact ⟨h_extends, h_head h_directory⟩
    next =>
      -- The directories around it come first.
      split at h_make
      next => cases h_make
      next middle h_outer =>
        obtain ⟨h_around, -⟩ := ih h_outer
        split at h_make
        next made h_path =>
          cases h_make
          obtain ⟨h_extends, h_directory⟩ := makeDirectory_eq_ok h_path outputs
          exact ⟨h_around.trans h_extends, h_head h_directory⟩
        next =>
          split at h_make
          next h_there =>
            cases h_make
            exact ⟨h_around, h_head h_there.2⟩
          next => cases h_make
    next =>
      split at h_make
      next h_there =>
        cases h_make
        exact ⟨.refl _ _, h_head h_there.2⟩
      next => cases h_make

theorem makeInnermost_of_isDirectory {paths : List String}
    (h_first : ∀ path ∈ paths.head?, tree.isDirectory path = true) :
    tree.makeInnermost paths = (.ok (), tree) := by
  cases paths with
  | nil => rfl
  | cons path outer =>
    have h_directory := h_first path rfl
    simp [makeInnermost, makeDirectory_of_isDirectory h_directory, h_directory]

/-- What making a directory leaves behind. -/
theorem makeDirectories_extends (h_make : tree.makeDirectories path = (.ok (), after))
    (outputs : Location → Prop) : tree.Extends after outputs :=
  (makeInnermost_eq_ok h_make outputs).1

/-- A directory that was made is not made again, however the tree has grown since then. -/
theorem makeDirectories_again (h_make : tree.makeDirectories path = (.ok (), middle))
    (h_grows : middle.Grows after) : after.makeDirectories path = (.ok (), after) := by
  apply makeInnermost_of_isDirectory
  intro other h_other
  exact h_grows.isDirectory ((makeInnermost_eq_ok h_make fun _ => False).2 other h_other)

/-! ## What is seen along a path -/

/-- The path leads through no directory that is new, and to none of the outputs. -/
structure Avoids (before after : Tree) (outputs : Location → Prop) (path : String) : Prop where
  through : ∀ front rest location, pathNames path ++ endingNames path = front ++ rest →
    rest ≠ [] → after.walk [] front = .ok location → after.node? location = some .directory →
    before.node? location = some .directory
  target : ∀ location, after.locate path = .ok location → ¬ outputs location

/-- Only the beginnings of one list of names are to be looked at. -/
theorem avoids_iff {outputs : Location → Prop} : before.Avoids after outputs path ↔
    (∀ count < (pathNames path ++ endingNames path).length,
      ∀ location ∈ (after.walk [] ((pathNames path ++ endingNames path).take count)).toOption,
        after.node? location = some .directory → before.node? location = some .directory) ∧
    ∀ location ∈ (after.locate path).toOption, ¬ outputs location := by
  have h_ok {answer : Except SystemError Location} {location : Location} :
      location ∈ answer.toOption ↔ answer = .ok location := by
    cases answer <;> simp [Except.toOption, eq_comm]
  simp only [h_ok]
  constructor
  · rintro ⟨h_through, h_target⟩
    refine ⟨fun count h_count location h_walk => ?_, h_target⟩
    apply h_through _ _ location (List.take_append_drop count _).symm ?_ h_walk
    exact fun h_nil => absurd (List.drop_eq_nil_iff.mp h_nil) (Nat.not_le.mpr h_count)
  · rintro ⟨h_through, h_target⟩
    refine ⟨fun front rest location h_names h_rest h_walk => ?_, h_target⟩
    apply h_through front.length
    · rw [h_names, List.length_append]
      exact Nat.lt_add_of_pos_right (List.length_pos_iff.mpr h_rest)
    · rwa [h_names, List.take_left]

instance (outputs : Location → Prop) [DecidablePred outputs] :
    Decidable (before.Avoids after outputs path) :=
  decidable_of_iff' _ avoids_iff

/-- Names lead where they lead later on, if they lead through directories that are there. -/
theorem walk_of_through {location target : Location} {names : List String}
    (h_walk : after.walk location names = .ok target)
    (h_through : ∀ front rest reached, names = front ++ rest → rest ≠ [] →
      after.walk location front = .ok reached → after.node? reached = some .directory →
      before.node? reached = some .directory)
    (h_target : (before.node? target).isSome) : before.walk location names = .ok target := by
  induction names generalizing location with
  | nil => exact h_walk
  | cons name rest ih =>
    -- What holds of the names from here on holds of those behind the next one.
    have h_behind {next : Location} (h_next : after.walk location [name] = .ok next) :
        ∀ front behind reached, rest = front ++ behind → behind ≠ [] →
          after.walk next front = .ok reached → after.node? reached = some .directory →
          before.node? reached = some .directory := by
      intro front behind reached h_rest h_behind h_front
      apply h_through (name :: front) behind reached (congrArg (name :: ·) h_rest) h_behind
      show after.walk location ([name] ++ front) = .ok reached
      rw [walk_append]
      exact bind_eq_ok.mpr ⟨next, h_next, h_front⟩
    rw [walk] at h_walk h_behind ⊢
    split at h_walk
    next => cases h_walk
    next h_directory =>
      have h_here := not_not.mp h_directory
      rw [if_neg (not_not_intro (h_through [] _ location rfl (List.cons_ne_nil _ _) rfl h_here))]
      rw [if_neg h_directory] at h_behind
      split at h_walk
      next h_dot =>
        rw [if_pos h_dot] at h_behind ⊢
        exact ih h_walk (h_behind rfl)
      next h_dot =>
        rw [if_neg h_dot] at h_behind ⊢
        split at h_walk
        next h_up =>
          rw [if_pos h_up] at h_behind ⊢
          split at h_walk
          next => cases h_walk
          next h_inside =>
            rw [if_neg h_inside] at h_behind ⊢
            exact ih h_walk (h_behind rfl)
        next h_up =>
          rw [if_neg h_up] at h_behind ⊢
          split at h_walk
          next => cases h_walk
          next h_size =>
            rw [if_neg h_size] at h_behind ⊢
            split at h_walk
            next h_there =>
              rw [if_pos h_there] at h_behind
              have h_rest := ih h_walk (h_behind rfl)
              -- The next place is the target, or a directory on the way to it.
              have h_next : (before.node? (location ++ [name])).isSome := by
                cases rest with
                | nil =>
                  obtain rfl : location ++ [name] = target := Except.ok.inj h_walk
                  exact h_target
                | cons =>
                  rw [walk] at h_rest
                  split at h_rest
                  next => cases h_rest
                  next h_next => simp [not_not.mp h_next]
              rwa [if_pos h_next]
            next => cases h_walk

theorem isFile_iff_node : tree.isFile path = true ↔ ∃ location contents,
    tree.locate path = .ok location ∧ tree.node? location = some (.file contents) := by
  rw [isFile_iff]
  constructor
  · rintro ⟨contents, h_lookup⟩
    obtain ⟨location, h_locate, h_node⟩ := lookup_eq_ok h_lookup
    exact ⟨location, contents, h_locate, h_node⟩
  · rintro ⟨location, contents, h_locate, h_node⟩
    exact ⟨contents, lookup_of_node h_locate h_node⟩

namespace Extends

variable {outputs : Location → Prop}

/-- What is no output is what it was, unless it is a new directory. -/
theorem node_eq {location : Location} (h_extends : before.Extends after outputs)
    (h_output : ¬ outputs location) (h_there : (before.node? location).isSome ∨
      after.node? location ≠ some .directory) : after.node? location = before.node? location := by
  rcases h_extends.kept location with h_kept | h_out | ⟨h_none, h_directory⟩
  · exact h_kept
  · exact absurd h_out h_output
  · rcases h_there with h_there | h_there
    · simp [h_none] at h_there
    · exact absurd h_directory h_there

theorem isFile_eq (h_extends : before.Extends after outputs)
    (h_avoids : before.Avoids after outputs path) : after.isFile path = before.isFile path := by
  rw [Bool.eq_iff_iff, isFile_iff_node, isFile_iff_node]
  constructor
  · rintro ⟨location, contents, h_locate, h_node⟩
    obtain ⟨_, h_checked, h_walk⟩ := bind_eq_ok.mp h_locate
    have h_same := h_extends.node_eq (h_avoids.target location h_locate) (.inr (by simp [h_node]))
    rw [h_node] at h_same
    refine ⟨location, contents, bind_eq_ok.mpr ⟨_, h_checked, ?_⟩, h_same.symm⟩
    apply walk_of_through h_walk h_avoids.through
    simp [← h_same]
  · rintro ⟨location, contents, h_locate, h_node⟩
    have h_locate' := h_extends.grows.locate h_locate
    have h_same := h_extends.node_eq (h_avoids.target location h_locate') (.inl (by simp [h_node]))
    exact ⟨location, contents, h_locate', h_same.trans h_node⟩

theorem readText_eq {text : String} (h_extends : before.Extends after outputs)
    (h_avoids : before.Avoids after outputs path) (h_read : before.readText path = .ok text) :
    after.readText path = .ok text := by
  obtain ⟨location, h_locate, h_node⟩ := readText_eq_ok.mp h_read
  have h_locate' := h_extends.grows.locate h_locate
  have h_same := h_extends.node_eq (h_avoids.target location h_locate') (.inl (by simp [h_node]))
  exact readText_eq_ok.mpr ⟨location, h_locate', h_same.trans h_node⟩

end Extends

end FieldDelta.Files.Tree
