import FieldDelta.Proofs.Files.Paths

/-! # Writing files

A written file holds what was written to it, and so does every file whose path ends with another
name.  Nothing on the way to it goes away: a tree only grows when a file is written.

* `Path.NamesLast` — the name that a path ends with;
* `Tree.Grows` — what was there is still there, and paths lead where they led;
* `Tree.readText_writeText` and `Tree.readText_of_writeText` — the two statements.
-/

namespace FieldDelta.Files

/-! ## The last name of a path -/

namespace Path

theorem exists_pieces (cs : List Char) : ∃ front last, pieces cs = front ++ [last] := by
  have h_pieces : pieces cs ≠ [] := by
    match cs with
    | [] => exact List.cons_ne_nil _ _
    | c :: rest =>
      rw [pieces]
      split
      · exact List.cons_ne_nil _ _
      · split <;> exact List.cons_ne_nil _ _
  exact ⟨_, _, (List.dropLast_append_getLast h_pieces).symm⟩

/-- What stands behind a path makes its last piece longer, if there is no slash in it. -/
theorem pieces_append {cs tail : List Char} (h_tail : '/' ∉ tail) {front : List (List Char)}
    {last : List Char} (h_pieces : pieces cs = front ++ [last]) :
    pieces (cs ++ tail) = front ++ [last ++ tail] := by
  induction cs generalizing front last with
  | nil =>
    obtain ⟨rfl, rfl⟩ : front = [] ∧ last = [] := by
      cases front with
      | nil => simpa [pieces] using h_pieces.symm
      | cons => simp [pieces] at h_pieces
    clear h_pieces
    simp only [List.nil_append]
    induction tail with
    | nil => rfl
    | cons c rest ih =>
      obtain ⟨h_first, h_rest⟩ := not_or.mp (mt List.mem_cons.mpr h_tail)
      rw [pieces, if_neg (Ne.symm h_first), ih h_rest]
  | cons c rest ih =>
    obtain ⟨front', last', h_rest⟩ := exists_pieces rest
    rw [List.cons_append, pieces, ih h_rest]
    rw [pieces, h_rest] at h_pieces
    split at h_pieces
    next h_slash =>
      rw [if_pos h_slash]
      rw [← List.cons_append] at h_pieces
      obtain ⟨rfl, h_last⟩ := List.append_inj' h_pieces rfl
      cases h_last
      rfl
    next h_slash =>
      rw [if_neg h_slash]
      cases front' with
      | nil =>
        obtain ⟨rfl, h_last⟩ := @List.append_inj' _ [] _ _ _ h_pieces rfl
        cases h_last
        rfl
      | cons first others =>
        obtain ⟨rfl, h_last⟩ := @List.append_inj' _ ((c :: first) :: others) _ _ _ h_pieces rfl
        cases h_last
        rfl

theorem pieces_slash {cs : List Char} : pieces (cs ++ ['/']) = pieces cs ++ [[]] := by
  induction cs with
  | nil => rfl
  | cons c rest ih =>
    rw [List.cons_append, pieces, pieces, ih]
    split
    · rfl
    · obtain ⟨front, last, h_rest⟩ := exists_pieces rest
      rw [h_rest]
      cases front <;> rfl

/-- The path ends with a name, no slash behind it. -/
structure NamesLast (path name : String) : Prop where
  getLast?_names : (Tree.pathNames path).getLast? = some name
  endingNames : Tree.endingNames path = []

/-- A path that ends with a text without a slash ends with a name that ends so. -/
theorem exists_namesLast {path : String} {cs tail : List Char} (h_path : path.toList = cs ++ tail)
    (h_tail : '/' ∉ tail) (h_nonempty : tail ≠ []) :
    ∃ front last, pieces cs = front ++ [last] ∧ NamesLast path (String.ofList (last ++ tail)) := by
  obtain ⟨front, last, h_pieces⟩ := exists_pieces cs
  refine ⟨front, last, h_pieces, ?_, ?_⟩
  · rw [Tree.pathNames, h_path, pieces_append h_tail h_pieces, List.filterMap_append]
    simp [h_nonempty]
  · have h_last : path.toList.getLast? ≠ some '/' := by
      rw [h_path, List.getLast?_append_of_ne_nil _ h_nonempty]
      exact fun h_slash => h_tail (List.mem_of_getLast? h_slash)
    rw [Tree.endingNames, if_neg (by simpa using h_last)]

/-- A path behind a directory is written behind what ends with a slash, or stands alone. -/
theorem toList_join (dir path : String) :
    ∃ cs, (join dir path).toList = cs ++ path.toList ∧ (cs = [] ∨ ∃ before, cs = before ++ ['/']) := by
  unfold join
  split
  · exact ⟨[], rfl, .inl rfl⟩
  · split
    next h_ends =>
      obtain ⟨before, h_before⟩ := List.getLast?_eq_some_iff.mp (beq_iff_eq.mp h_ends)
      exact ⟨dir.toList, String.toList_append, .inr ⟨before, h_before⟩⟩
    next => exact ⟨dir.toList ++ ['/'], by simp, .inr ⟨_, rfl⟩⟩

theorem namesLast_join {dir name : String} (h_slash : '/' ∉ name.toList) (h_name : name ≠ "") :
    NamesLast (join dir name) name := by
  obtain ⟨cs, h_path, h_cs⟩ := toList_join dir name
  obtain ⟨front, last, h_pieces, h_last⟩ :=
    exists_namesLast h_path h_slash (by simpa using h_name)
  obtain rfl : last = [] := by
    rcases h_cs with rfl | ⟨before, rfl⟩
    · exact (List.cons.inj (@List.append_inj' _ [] _ _ _ h_pieces rfl).2).1.symm
    · rw [pieces_slash] at h_pieces
      exact (List.cons.inj (List.append_inj' h_pieces rfl).2).1.symm
  rwa [List.nil_append, String.ofList_toList] at h_last

/-- Whatever a path ends with, so does its last name, if there is no slash in it. -/
theorem exists_namesLast_join (dir path tail : String) (h_slash : '/' ∉ tail.toList)
    (h_tail : tail ≠ "") : ∃ name, NamesLast (join dir (path ++ tail)) (name ++ tail) := by
  obtain ⟨cs, h_path, -⟩ := toList_join dir (path ++ tail)
  rw [String.toList_append, ← List.append_assoc] at h_path
  obtain ⟨_, last, -, h_last⟩ := exists_namesLast h_path h_slash (by simpa using h_tail)
  refine ⟨String.ofList last, ?_⟩
  rwa [String.ofList_append, String.ofList_toList] at h_last

end Path

namespace Tree

variable {tree after : Tree} {path name : String}

/-! ## Growing trees -/

/-- Directories stay directories, and nothing that is there goes away. -/
structure Grows (before after : Tree) : Prop where
  directory : ∀ location, before.node? location = some .directory →
    after.node? location = some .directory
  isSome : ∀ location, (before.node? location).isSome → (after.node? location).isSome

theorem node?_put (tree : Tree) (location : Location) (h_location : location ≠ []) (node : Node) :
    (tree.put location node).node? location = some node := by
  simp [node?, put, h_location]

theorem node?_put_of_ne (tree : Tree) {location other : Location} (h_ne : other ≠ location)
    (node : Node) : (tree.put location node).node? other = tree.node? other := by
  have h_find : ((tree.put location node).entries.find? (·.1 == other)) =
      tree.entries.find? (·.1 == other) := by
    rw [put, List.find?_cons_of_neg (by simpa using h_ne.symm), List.find?_filter]
    refine congrFun (congrArg _ (funext fun entry => ?_)) _
    by_cases h_entry : entry.1 = other <;> simp [h_entry, h_ne]
  rw [node?, node?, h_find]

theorem grows_put {location : Location} (node : Node)
    (h_free : tree.node? location ≠ some .directory) : tree.Grows (tree.put location node) := by
  have h_location : location ≠ [] := by
    rintro rfl
    exact h_free (if_pos rfl)
  constructor
  · intro other h_other
    by_cases h_ne : other = location
    · exact absurd (h_ne ▸ h_other) h_free
    · rwa [node?_put_of_ne tree h_ne]
  · intro other h_other
    by_cases h_ne : other = location
    · rw [h_ne, node?_put tree _ h_location]
      rfl
    · rwa [node?_put_of_ne tree h_ne]

/-- Paths lead where they led. -/
theorem Grows.walk (h_grows : tree.Grows after) {location target : Location} {names : List String}
    (h_walk : tree.walk location names = .ok target) : after.walk location names = .ok target := by
  induction names generalizing location with
  | nil => exact h_walk
  | cons name rest ih =>
    rw [Tree.walk] at h_walk ⊢
    split at h_walk
    next => cases h_walk
    next h_directory =>
      rw [if_neg (not_not_intro (h_grows.directory location (not_not.mp h_directory)))]
      split at h_walk
      next h_dot =>
        rw [if_pos h_dot]
        exact ih h_walk
      next h_dot =>
        rw [if_neg h_dot]
        split at h_walk
        next h_up =>
          rw [if_pos h_up]
          split at h_walk
          next => cases h_walk
          next h_inside =>
            rw [if_neg h_inside]
            exact ih h_walk
        next h_up =>
          rw [if_neg h_up]
          split at h_walk
          next => cases h_walk
          next h_size =>
            rw [if_neg h_size]
            split at h_walk
            next h_there =>
              rw [if_pos (h_grows.isSome _ h_there)]
              exact ih h_walk
            next => cases h_walk

theorem walk_append (tree : Tree) (location : Location) (names rest : List String) :
    tree.walk location (names ++ rest) =
      tree.walk location names >>= fun reached => tree.walk reached rest := by
  induction names generalizing location with
  | nil => rfl
  | cons name names ih =>
    rw [List.cons_append, walk, walk]
    split
    · rfl
    · split
      · exact ih location
      · split
        · split
          · rfl
          · exact ih location.dropLast
        · split
          · rfl
          · split
            · exact ih (location ++ [name])
            · rfl

/-! ## Looking at the last name -/

/-- The name of a file or directory: no dots, and not too long. -/
structure IsName (name : String) : Prop where
  ne_current : name ≠ "."
  ne_parent : name ≠ ".."
  size_le : name.utf8ByteSize ≤ maxNameBytes

theorem walk_name {location : Location} (h_name : IsName name)
    (h_directory : tree.node? location = some .directory)
    (h_there : (tree.node? (location ++ [name])).isSome) :
    tree.walk location [name] = .ok (location ++ [name]) := by
  rw [walk, if_neg (not_not_intro h_directory), if_neg h_name.ne_current, if_neg h_name.ne_parent,
    if_neg (Nat.not_lt.mpr h_name.size_le), if_pos h_there, walk]

theorem walk_name_eq_ok {location target : Location} (h_current : name ≠ ".")
    (h_parent : name ≠ "..") (h_walk : tree.walk location [name] = .ok target) :
    target = location ++ [name] := by
  rw [walk, if_neg h_current, if_neg h_parent] at h_walk
  split at h_walk
  next => cases h_walk
  next =>
    split at h_walk
    next => cases h_walk
    next =>
      split at h_walk
      next => exact (Except.ok.inj h_walk).symm
      next => cases h_walk

/-- Behind a path stands a place that is called like the path's last name. -/
theorem getLast?_locate {location : Location} (h_last : Path.NamesLast path name)
    (h_current : name ≠ ".") (h_parent : name ≠ "..") (h_locate : tree.locate path = .ok location) :
    location.getLast? = some name := by
  obtain ⟨_, -, h_walk⟩ := bind_eq_ok.mp h_locate
  obtain ⟨front, h_names⟩ := List.getLast?_eq_some_iff.mp h_last.getLast?_names
  rw [h_last.endingNames, List.append_nil, h_names, walk_append] at h_walk
  obtain ⟨parent, -, h_walk⟩ := bind_eq_ok.mp h_walk
  rw [walk_name_eq_ok h_current h_parent h_walk, List.getLast?_concat]

/-! ## Writing -/

/-- The path leads to the name in the directory `parent`, whether or not there is something. -/
structure EndsIn (tree : Tree) (path : String) (parent : Location) (name : String) : Prop where
  checked : checkPath path = .ok ()
  names : ∃ front, pathNames path = front ++ [name] ∧ tree.walk [] front = .ok parent
  isName : IsName name
  directory : tree.node? parent = some .directory

theorem locateParent_eq_ok {parent : Location}
    (h_parent : tree.locateParent path = .ok (parent, some name)) :
    tree.EndsIn path parent name := by
  obtain ⟨_, h_checked, h_parent⟩ := bind_eq_ok.mp h_parent
  obtain ⟨location, h_walk, h_parent⟩ := bind_eq_ok.mp h_parent
  rw [walk_append] at h_walk
  obtain ⟨reached, h_reached, h_walk⟩ := bind_eq_ok.mp h_walk
  rw [walk] at h_walk
  split at h_walk
  next => cases h_walk
  next h_directory =>
    cases h_walk
    split at h_parent
    next => cases h_parent
    next last h_last =>
      split at h_parent
      next => cases h_parent
      next h_dots =>
        split at h_parent
        next => cases h_parent
        next h_size =>
          cases h_parent
          obtain ⟨h_current, h_up⟩ := not_or.mp h_dots
          obtain ⟨front, h_names⟩ := List.getLast?_eq_some_iff.mp h_last
          rw [h_names, List.dropLast_concat] at h_reached
          exact ⟨h_checked, ⟨front, h_names, h_reached⟩,
            ⟨h_current, h_up, Nat.not_lt.mp h_size⟩, not_not.mp h_directory⟩

/-- Behind a new directory, a slash at the end of its path leads nowhere else. -/
theorem EndsIn.locate_put {parent : Location} (h_ends : tree.EndsIn path parent name) (node : Node)
    (h_free : tree.node? (parent ++ [name]) ≠ some .directory)
    (h_ending : endingNames path = [] ∨ node = .directory) :
    (tree.put (parent ++ [name]) node).locate path = .ok (parent ++ [name]) := by
  obtain ⟨front, h_names, h_walk⟩ := h_ends.names
  have h_grows := grows_put node h_free
  have h_node := node?_put tree (parent ++ [name]) (by simp) node
  have h_name : (tree.put (parent ++ [name]) node).walk parent [name] = .ok (parent ++ [name]) :=
    walk_name h_ends.isName (h_grows.directory _ h_ends.directory) (by rw [h_node]; rfl)
  refine bind_eq_ok.mpr ⟨(), h_ends.checked, ?_⟩
  rw [h_names, walk_append, walk_append]
  refine bind_eq_ok.mpr ⟨_, bind_eq_ok.mpr ⟨parent, h_grows.walk h_walk, h_name⟩, ?_⟩
  rcases h_ending with h_ending | rfl
  · rw [h_ending]
    rfl
  · unfold endingNames
    split
    · simp [walk, h_node]
    · rfl

theorem writeText_eq_ok {text : String} (h_write : tree.writeText path text = .ok after) :
    ∃ parent name, tree.EndsIn path parent name ∧
      tree.node? (parent ++ [name]) ≠ some .directory ∧
      after = tree.put (parent ++ [name]) (.file (.text text)) := by
  obtain ⟨⟨parent, _ | name⟩, h_parent, h_write⟩ := bind_eq_ok.mp h_write
  · cases h_write
  · dsimp only at h_write
    split at h_write
    next => cases h_write
    next h_free =>
      exact ⟨parent, name, locateParent_eq_ok h_parent, h_free, (Except.ok.inj h_write).symm⟩

theorem readText_eq_ok {text : String} :
    tree.readText path = .ok text ↔
      ∃ location, tree.locate path = .ok location ∧
        tree.node? location = some (.file (.text text)) := by
  constructor
  · intro h_read
    obtain ⟨node, h_lookup, h_read⟩ := bind_eq_ok.mp h_read
    obtain ⟨location, h_locate, h_node⟩ := lookup_eq_ok h_lookup
    refine ⟨location, h_locate, ?_⟩
    split at h_read
    next =>
      cases h_read
      exact h_node
    next => cases h_read
    next => cases h_read
  · rintro ⟨location, h_locate, h_node⟩
    refine bind_eq_ok.mpr ⟨.file (.text text), bind_eq_ok.mpr ⟨location, h_locate, ?_⟩, rfl⟩
    rw [h_node]
    rfl

/-- A file holds what was written to it. -/
theorem readText_writeText {text : String} (h_ending : endingNames path = [])
    (h_write : tree.writeText path text = .ok after) : after.readText path = .ok text := by
  obtain ⟨parent, name, h_ends, h_free, rfl⟩ := writeText_eq_ok h_write
  have h_node := node?_put tree (parent ++ [name]) (by simp) (.file (.text text))
  exact readText_eq_ok.mpr ⟨_, h_ends.locate_put _ h_free (.inl h_ending), h_node⟩

/-- Writing a file leaves those alone whose paths end with another name. -/
theorem readText_of_writeText {text other otherName otherText : String}
    (h_write : tree.writeText path text = .ok after) (h_read : tree.readText other = .ok otherText)
    (h_name : Path.NamesLast path name) (h_other : Path.NamesLast other otherName)
    (h_current : otherName ≠ ".") (h_parent : otherName ≠ "..") (h_ne : name ≠ otherName) :
    after.readText other = .ok otherText := by
  obtain ⟨parent, written, h_ends, h_free, rfl⟩ := writeText_eq_ok h_write
  obtain ⟨location, h_locate, h_node⟩ := readText_eq_ok.mp h_read
  obtain ⟨front, h_names, -⟩ := h_ends.names
  obtain rfl : written = name := by
    have h_last := h_name.getLast?_names
    rw [h_names, List.getLast?_concat] at h_last
    exact Option.some.inj h_last
  have h_location : location ≠ parent ++ [written] := by
    rintro rfl
    have h_last := getLast?_locate h_other h_current h_parent h_locate
    rw [List.getLast?_concat] at h_last
    exact h_ne (Option.some.inj h_last)
  obtain ⟨_, h_checked, h_walk⟩ := bind_eq_ok.mp h_locate
  refine readText_eq_ok.mpr ⟨location, ?_, ?_⟩
  · exact bind_eq_ok.mpr ⟨(), h_checked, (grows_put _ h_free).walk h_walk⟩
  · rwa [node?_put_of_ne tree h_location]

end Tree
end FieldDelta.Files
