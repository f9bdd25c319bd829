import FieldDelta.Discovery
import Mathlib.Data.List.Nodup
import Mathlib.Data.List.Perm.Subperm
import Mathlib.Data.Nat.Digits.Defs

/-! # How many paths there are

A file can be found only under a path that is short enough for the system, and there are finitely
many of those.  So a list of different paths of files is shorter than `pathCount`.
-/

namespace FieldDelta.Files

/-! ## Paths of files -/

theorem bind_eq_ok {α β : Type} {first : Except SystemError α} {next : α → Except SystemError β}
    {value : β} : first >>= next = .ok value ↔ ∃ a, first = .ok a ∧ next a = .ok value := by
  cases first with
  | error error => exact iff_of_false nofun fun ⟨_, h_first, _⟩ => nomatch h_first
  | ok a =>
    constructor
    · intro h_next
      exact ⟨a, rfl, h_next⟩
    · rintro ⟨_, h_first, h_next⟩
      cases h_first
      exact h_next

namespace Tree

variable {tree : Tree} {path : String}

/-- Every file of the tree holds text. -/
def HoldsText (tree : Tree) : Prop :=
  ∀ entry ∈ tree.entries, entry.2 ≠ .file .notText

instance (tree : Tree) : Decidable tree.HoldsText :=
  inferInstanceAs (Decidable (∀ _ ∈ _, _))

theorem isFile_iff :
    tree.isFile path = true ↔ ∃ contents, tree.lookup path = .ok (.file contents) := by
  unfold isFile
  split
  next contents h_lookup => exact iff_of_true rfl ⟨contents, h_lookup⟩
  next h_none =>
    refine iff_of_false nofun ?_
    rintro ⟨contents, h_lookup⟩
    exact h_none contents h_lookup

theorem lookup_eq_ok {node : Node} (h_lookup : tree.lookup path = .ok node) :
    ∃ location, tree.locate path = .ok location ∧ tree.node? location = some node := by
  obtain ⟨location, h_locate, h_found⟩ := bind_eq_ok.mp h_lookup
  refine ⟨location, h_locate, ?_⟩
  cases h_node : tree.node? location with
  | none =>
    rw [h_node] at h_found
    cases h_found
  | some found =>
    rw [h_node] at h_found
    exact congrArg some (Except.ok.inj h_found)

/-- A file of a tree that holds text can be read. -/
theorem HoldsText.readText_eq (h_texts : tree.HoldsText) (h_file : tree.isFile path = true) :
    ∃ text, tree.readText path = .ok text := by
  obtain ⟨contents, h_lookup⟩ := isFile_iff.mp h_file
  obtain ⟨location, -, h_node⟩ := lookup_eq_ok h_lookup
  have h_entry : ∃ entry ∈ tree.entries, entry.2 = .file contents := by
    unfold node? at h_node
    split at h_node
    · cases h_node
    · obtain ⟨entry, h_find, h_contents⟩ := Option.map_eq_some_iff.mp h_node
      exact ⟨entry, List.mem_of_find?_eq_some h_find, h_contents⟩
  obtain ⟨entry, h_mem, h_contents⟩ := h_entry
  cases contents with
  | text text => exact ⟨text, bind_eq_ok.mpr ⟨_, h_lookup, rfl⟩⟩
  | notText => exact absurd h_contents (h_texts entry h_mem)

theorem size_le_of_isFile (h_file : tree.isFile path = true) :
    path.utf8ByteSize ≤ maxPathBytes := by
  obtain ⟨contents, h_lookup⟩ := isFile_iff.mp h_file
  obtain ⟨location, h_locate, -⟩ := lookup_eq_ok h_lookup
  obtain ⟨checked, h_check, -⟩ := bind_eq_ok.mp h_locate
  by_contra h_long
  unfold checkPath at h_check
  rw [if_pos (Nat.lt_of_not_le h_long)] at h_check
  split at h_check <;> cases h_check

end Tree

/-! ## Counting -/

namespace Path

theorem same_refl (path : String) : same path path = true :=
  beq_self_eq_true _

/-- The number whose digits are the bytes of a text, behind a one. -/
def code (path : String) : Nat :=
  Nat.ofDigits 256 (path.toByteArray.data.toList.map UInt8.toNat ++ [1])

theorem digits_code (path : String) :
    Nat.digits 256 (code path) = path.toByteArray.data.toList.map UInt8.toNat ++ [1] := by
  refine Nat.digits_ofDigits 256 (by decide) _ ?_ (by simp)
  intro digit h_digit
  rcases List.mem_append.mp h_digit with h_byte | h_one
  · obtain ⟨byte, -, rfl⟩ := List.mem_map.mp h_byte
    exact byte.toNat_lt
  · rw [List.mem_singleton.mp h_one]
    decide

theorem code_injective : Function.Injective code := by
  intro path other h_code
  have h_digits := (digits_code path).symm.trans ((congrArg _ h_code).trans (digits_code other))
  have h_bytes : Function.Injective UInt8.toNat := fun _ _ => UInt8.toNat_inj.mp
  have h_lists := List.map_injective_iff.mpr h_bytes (List.append_cancel_right h_digits)
  exact String.toByteArray_inj.mp (ByteArray.ext (Array.toList_inj.mp h_lists))

theorem code_lt {path : String} {limit : Nat} (h_size : path.utf8ByteSize ≤ limit) :
    code path < 256 ^ (limit + 1) := by
  have h_length : (Nat.digits 256 (code path)).length = path.utf8ByteSize + 1 := by
    rw [digits_code]
    simp only [List.length_append, List.length_map, List.length_singleton, Array.length_toList]
    rfl
  refine Nat.lt_of_lt_of_le (Nat.lt_base_pow_length_digits (b := 256) (by decide)) ?_
  rw [h_length]
  exact Nat.pow_le_pow_right (by decide) (Nat.succ_le_succ h_size)

theorem code_pos (path : String) : 0 < code path := by
  refine Nat.pos_of_ne_zero fun h_zero => ?_
  have h_digits := digits_code path
  rw [h_zero, Nat.digits_zero] at h_digits
  exact List.append_ne_nil_of_right_ne_nil _ (List.cons_ne_nil _ _) h_digits.symm

/-- Different texts of at most `limit` bytes are fewer than what one byte more could tell apart. -/
theorem length_lt_of_size {paths : List String} {limit : Nat} (h_nodup : paths.Nodup)
    (h_size : ∀ path ∈ paths, path.utf8ByteSize ≤ limit) : paths.length < Nat.pow 256 (limit + 1) := by
  have h_codes : (0 :: paths.map code).Nodup := by
    refine List.nodup_cons.mpr ⟨?_, h_nodup.map code_injective⟩
    intro h_zero
    obtain ⟨path, -, h_code⟩ := List.mem_map.mp h_zero
    exact absurd h_code (Nat.ne_of_gt (code_pos path))
  have h_range : 0 :: paths.map code ⊆ List.range (256 ^ (limit + 1)) := by
    intro number h_number
    rw [List.mem_range]
    rcases List.mem_cons.mp h_number with rfl | h_code
    · exact Nat.pow_pos (by decide)
    · obtain ⟨path, h_path, rfl⟩ := List.mem_map.mp h_code
      exact code_lt (h_size path h_path)
  have h_length := (List.subperm_of_subset h_codes h_range).length_le
  rw [List.length_cons, List.length_map, List.length_range] at h_length
  exact h_length

/-- Different paths of files are fewer than `pathCount`. -/
theorem length_lt_pathCount {tree : Tree} {paths : List String} (h_nodup : paths.Nodup)
    (h_files : ∀ path ∈ paths, tree.isFile path = true) : paths.length < pathCount := by
  have h_size : ∀ path ∈ paths, path.utf8ByteSize ≤ Tree.maxPathBytes := fun path h_path =>
    Tree.size_le_of_isFile (h_files path h_path)
  generalize h_limit : Tree.maxPathBytes = limit at h_size
  unfold pathCount
  rw [h_limit]
  exact length_lt_of_size h_nodup h_size

end Path
end FieldDelta.Files
