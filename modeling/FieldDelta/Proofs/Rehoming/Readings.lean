import FieldDelta.Proofs.Naming
import FieldDelta.Proofs.Rehoming.Leaves
import FieldDelta.Syntax.Parse

/-! # What rehomed types mean

A path means something to a reader in a module.  `Self`, `self` and `super` at its front lead to a
place that is counted from the crate root; any other path is left as it is written.  The generated
module is a child of the declaring one, and there a rehomed type should read as the type itself
does in the declaring module.

* `Leaf.target` — where a path leads;
* `Leaf.reading` — the same, with a qualified path divided into its trait and the names behind it;
* `target_rehome` — rehoming keeps every target;
* `reading_rehome_iff` — it keeps the reading of every leaf except a qualified path whose trait
  gains a segment, for the position of the division is not moved with the trait.
-/

namespace FieldDelta.Syntax

/-! ## Readings -/

/-- Where a type is read: in a module, given by its names from the crate root on, on behalf of the
    type that `Self` names. -/
structure Standpoint where
  module : List String
  owner : String

/-- The same in a child of the module. -/
def Standpoint.child (here : Standpoint) (name : String) : Standpoint :=
  { here with module := here.module ++ [name] }

/-- What is read at a leaf. -/
inductive Reading where
  | token (chars : List Char) (joint : Bool)
  | opening (delimiter : Option Delimiter)
  | closing (delimiter : Option Delimiter)
  /-- A path that is anchored at `Self`, `self` or `super`, by its names from the crate root on.
      There are none for a path that leads above the root. -/
  | place (names : Option (List String))
  /-- Any other path. -/
  | written (leading : Bool) (names : List String)
  /-- A qualified path: its trait, and the names behind it. -/
  | divided (trait : Reading) (rest : List String)
deriving DecidableEq, Repr

/-- Follows the `super` in front of the names, from a module on.  The crate root is left by none
    of them. -/
def climb? (module : List String) : List String → Option (List String)
  | [] => some module
  | first :: rest =>
    if first = "super" then
      if module.length ≤ 1 then none else climb? module.dropLast rest
    else some (module ++ first :: rest)

/-- An absolute path.  A raw identifier is the same name as a plain one. -/
def Reading.ofPlace (names : Option (List String)) : Reading :=
  .place (names.map (·.map Naming.withoutRaw))

/-- Where the path of the given names leads. -/
def target (here : Standpoint) (leading : Bool) (names : List String) : Reading :=
  if leading then .written true names
  else
    match names with
    | [] => .written false []
    | first :: rest =>
      if first = "Self" then .ofPlace (some (here.module ++ here.owner :: rest))
      else if first = "self" then .ofPlace (climb? here.module rest)
      else if first = "super" then .ofPlace (climb? here.module (first :: rest))
      else .written false names

/-- What is read at a leaf, where qualified paths are not divided. -/
def Leaf.target (here : Standpoint) : Leaf → Reading
  | .token chars joint => .token chars joint
  | .opening delimiter => .opening delimiter
  | .closing delimiter => .closing delimiter
  | .path leading names => Syntax.target here leading names
  | .qualified _ leading names => Syntax.target here leading names

/-- What is read at a leaf.  A qualified path is divided, unless it names no trait. -/
def Leaf.reading (here : Standpoint) : Leaf → Reading
  | .qualified (position + 1) leading names =>
    .divided (Syntax.target here leading (names.take (position + 1))) (names.drop (position + 1))
  | leaf => leaf.target here

/-- Where the paths of a phrase lead, among all else that it says. -/
def Phrase.targets (here : Standpoint) (phrase : Phrase) : List Reading :=
  phrase.leaves.map (Leaf.target here)

/-- What a phrase says. -/
def Phrase.readings (here : Standpoint) (phrase : Phrase) : List Reading :=
  phrase.leaves.map (Leaf.reading here)

/-! ## Rehoming keeps targets -/

variable {here : Standpoint} {child : String}

/-- The identifier that is written for an owner is another spelling of its name. -/
theorem withoutRaw_ownerIdentifier (owner : String) :
    Naming.withoutRaw (ownerIdentifier owner) = Naming.withoutRaw owner := by
  unfold ownerIdentifier
  split
  next h_keyword =>
    rw [Naming.withoutRaw_raw, Naming.withoutRaw_of_plain (Naming.rawName?_of_isKeyword h_keyword)]
  next => rfl

theorem ownerIdentifier_ne_super (owner : String) : ownerIdentifier owner ≠ "super" := by
  unfold ownerIdentifier
  split
  next =>
    intro h_eq
    have h_first := congrArg (fun s => s.toList.head?) h_eq
    simp at h_first
  next h_plain =>
    rintro rfl
    exact h_plain (by decide)

theorem climb?_of_ne (module rest : List String) {first : String} (h_first : first ≠ "super") :
    climb? module (first :: rest) = some (module ++ first :: rest) := by
  rw [climb?, if_neg h_first]

theorem climb?_child {module : List String} (h_module : module ≠ []) (rest : List String) :
    climb? (module ++ [child]) ("super" :: rest) = climb? module rest := by
  have h_length : ¬ (module ++ [child]).length ≤ 1 := by
    have h_pos := List.length_pos_iff.mpr h_module
    simp only [List.length_append, List.length_singleton]
    omega
  rw [climb?, if_pos rfl, if_neg h_length, List.dropLast_concat]

/-- A rehomed path leads where it led before, seen from one module deeper. -/
theorem target_rehomeNames (h_module : here.module ≠ []) (leading : Bool) (names : List String) :
    target (here.child child) leading (rehomeNames here.owner leading names) =
      target here leading names := by
  cases leading with
  | true => rfl
  | false =>
    cases names with
    | nil => rfl
    | cons first rest =>
      simp only [rehomeNames, target, Bool.false_eq_true, if_false]
      by_cases h_Self : first = "Self"
      · -- The step up is followed by the owner, which is no further step.
        have h_owner := climb?_of_ne here.module rest (ownerIdentifier_ne_super here.owner)
        simp [h_Self, Standpoint.child, climb?_child h_module, h_owner, Reading.ofPlace,
          withoutRaw_ownerIdentifier]
      by_cases h_self : first = "self"
      · simp [h_self, Standpoint.child, climb?_child h_module]
      by_cases h_super : first = "super"
      · simp [h_super, Standpoint.child, climb?_child h_module]
      · simp [h_Self, h_self, h_super]

theorem target_rehome (h_module : here.module ≠ []) (leaf : Leaf) :
    (leaf.rehome here.owner).target (here.child child) = leaf.target here := by
  cases leaf with
  | path leading names => exact target_rehomeNames h_module leading names
  | qualified position leading names => exact target_rehomeNames h_module leading names
  | _ => rfl

/-- Rehoming keeps all that a phrase says, except for the division of qualified paths. -/
theorem targets_rehome (h_module : here.module ≠ []) (phrase : Phrase) :
    (phrase.rehome here.owner).targets (here.child child) = phrase.targets here := by
  rw [Phrase.targets, leaves_rehome, List.map_map]
  exact List.map_congr_left fun leaf _ => target_rehome h_module leaf

/-! ## Rehoming and the division of qualified paths -/

/-- A first name in whose place rehoming puts two. -/
def Grows (first : String) : Prop :=
  first = "Self" ∨ first = "super"

instance (first : String) : Decidable (Grows first) :=
  inferInstanceAs (Decidable (_ ∨ _))

/-- A qualified path whose trait grows. -/
def Leaf.TraitGrows : Leaf → Prop
  | .qualified position false (first :: rest) =>
    0 < position ∧ position ≤ rest.length + 1 ∧ Grows first
  | _ => False

instance : DecidablePred Leaf.TraitGrows
  | .qualified position false (first :: rest) =>
    inferInstanceAs (Decidable (0 < position ∧ position ≤ rest.length + 1 ∧ Grows first))
  | .qualified _ false [] | .qualified _ true _ => .isFalse id
  | .token _ _ | .opening _ | .closing _ | .path _ _ => .isFalse id

theorem pos_of_traitGrows {position : Nat} {leading : Bool} {names : List String}
    (h_grows : (Leaf.qualified position leading names).TraitGrows) : 0 < position := by
  cases leading <;> cases names <;> first | exact h_grows.1 | exact h_grows.elim

theorem length_rehomeNames_of_grows {first : String} (h_grows : Grows first) (owner : String)
    (rest : List String) : (rehomeNames owner false (first :: rest)).length = rest.length + 2 := by
  rcases h_grows with rfl | rfl <;> simp [rehomeNames]

/-- Where the first name does not grow, rehoming changes that name at most. -/
theorem rehomeNames_of_not_grows {first : String} (h_not : ¬ Grows first) (owner : String) :
    ∃ name, ∀ rest, rehomeNames owner false (first :: rest) = name :: rest := by
  obtain ⟨h_Self, h_super⟩ := not_or.mp h_not
  by_cases h_self : first = "self"
  · exact ⟨"super", fun rest => by simp [rehomeNames, h_self]⟩
  · exact ⟨first, fun rest => by simp [rehomeNames, h_Self, h_self, h_super]⟩

/-- A leaf is read as before exactly if it is no qualified path whose trait grows. -/
theorem reading_rehome_iff (h_module : here.module ≠ []) (leaf : Leaf) :
    (leaf.rehome here.owner).reading (here.child child) = leaf.reading here ↔
      ¬ leaf.TraitGrows := by
  match leaf with
  | .token chars joint => exact iff_of_true rfl id
  | .opening delimiter => exact iff_of_true rfl id
  | .closing delimiter => exact iff_of_true rfl id
  | .path leading names => exact iff_of_true (target_rehomeNames h_module leading names) id
  | .qualified 0 leading names =>
    refine iff_of_true (target_rehomeNames h_module leading names) fun h_grows => ?_
    exact Nat.lt_irrefl 0 (pos_of_traitGrows h_grows)
  | .qualified (position + 1) true names => exact iff_of_true rfl id
  | .qualified (position + 1) false [] => exact iff_of_true rfl id
  | .qualified (position + 1) false (first :: rest) =>
    have h_target (names : List String) :
        target (here.child child) false (rehomeNames here.owner false names) =
          target here false names :=
      target_rehomeNames h_module false names
    simp only [Leaf.rehome, Leaf.reading, Leaf.TraitGrows, Reading.divided.injEq]
    by_cases h_grows : Grows first
    · have h_length := length_rehomeNames_of_grows h_grows here.owner rest
      by_cases h_position : position + 1 ≤ rest.length + 1
      · -- One name of the trait is left behind the division.
        refine iff_of_false (fun ⟨_, h_rest⟩ => ?_) fun h_not =>
          h_not ⟨Nat.succ_pos position, h_position, h_grows⟩
        have h_lengths := congrArg List.length h_rest
        simp only [List.length_drop, h_length, List.length_cons] at h_lengths
        omega
      · -- All names are the trait's, and stay so.
        refine iff_of_true ?_ fun ⟨_, h_within, _⟩ => h_position h_within
        rw [List.take_of_length_le (by omega), List.drop_of_length_le (by omega),
          List.take_of_length_le (by simp only [List.length_cons]; omega),
          List.drop_of_length_le (by simp only [List.length_cons]; omega)]
        exact ⟨h_target _, rfl⟩
    · obtain ⟨name, h_names⟩ := rehomeNames_of_not_grows h_grows here.owner
      refine iff_of_true ⟨?_, ?_⟩ fun ⟨_, _, h_some⟩ => h_grows h_some
      · rw [h_names, List.take_succ_cons, ← h_names, h_target, List.take_succ_cons]
      · rw [h_names, List.drop_succ_cons, List.drop_succ_cons]

/-- A phrase says the same in the child module exactly if it has no qualified path whose trait
    grows. -/
theorem readings_rehome_iff (h_module : here.module ≠ []) (phrase : Phrase) :
    (phrase.rehome here.owner).readings (here.child child) = phrase.readings here ↔
      ∀ leaf ∈ phrase.leaves, ¬ leaf.TraitGrows := by
  rw [Phrase.readings, leaves_rehome, List.map_map, Phrase.readings, List.map_inj_left]
  exact forall₂_congr fun leaf _ => reading_rehome_iff h_module leaf

end FieldDelta.Syntax

namespace FieldDelta

open Syntax

/-! ## Rehomed types -/

/-- The standpoint of a type that is declared in a module. -/
def standpoint (modulePath owner : String) : Standpoint :=
  ⟨Text.segments modulePath, owner⟩

theorem rehomeType_of_climbs {type : Phrase} {owner : String} {depth : Nat}
    (h_climbs : ∀ path ∈ type.paths, climbs path ≤ depth) :
    rehomeType type owner depth = .ok (type.rehome owner) := by
  have h_none : type.paths.find? (fun path => depth < climbs path) = none := by
    rw [List.find?_eq_none]
    intro path h_path
    simpa using h_climbs path h_path
  rw [rehomeType, h_none]

/-- A type that climbs no higher than its module allows is rehomed.  From the child module, each
    of its paths leads where the type's own path leads from the declaring module, and all else is
    unchanged.  Qualified paths are divided at the same place too, and the type thereby says the
    same, exactly if no trait among them is anchored at `Self` or `super`. -/
theorem rehomeType_keeps_targets_and_readings (type : Phrase) (modulePath owner child : String)
    (h_climbs : ∀ path ∈ type.paths, climbs path ≤ Naming.moduleDepth modulePath) :
    ∃ moved, rehomeType type owner (Naming.moduleDepth modulePath) = .ok moved ∧
      moved.targets ((standpoint modulePath owner).child child) =
        type.targets (standpoint modulePath owner) ∧
      (moved.readings ((standpoint modulePath owner).child child) =
          type.readings (standpoint modulePath owner) ↔
        ∀ leaf ∈ type.leaves, ¬ leaf.TraitGrows) := by
  have h_module : (standpoint modulePath owner).module ≠ [] := Text.segments_ne_nil modulePath
  exact ⟨_, rehomeType_of_climbs h_climbs, targets_rehome h_module type,
    readings_rehome_iff h_module type⟩

/-- A callback whose type has anchored paths in a bound, in generic arguments, and as the type and
    the trait of a qualified path. -/
def callbackType : Phrase :=
  (parseType? "dyn Fn(Self) -> <super::A as self::B<Self>>::C").getD []

theorem rehomeType_callbackType :
    (∀ path ∈ callbackType.paths, climbs path ≤ Naming.moduleDepth "crate::m") ∧
    (∀ leaf ∈ callbackType.leaves, ¬ leaf.TraitGrows) ∧
    ∃ moved, rehomeType callbackType "Node" (Naming.moduleDepth "crate::m") = .ok moved ∧
      moved.readings ((standpoint "crate::m" "Node").child "deltas") =
        callbackType.readings (standpoint "crate::m" "Node") := by
  refine ⟨by decide +kernel, by decide +kernel, ?_⟩
  obtain ⟨moved, h_moved, -, h_readings⟩ :=
    rehomeType_keeps_targets_and_readings callbackType "crate::m" "Node" "deltas"
      (by decide +kernel)
  exact ⟨moved, h_moved, h_readings.mpr (by decide +kernel)⟩

/-- The trait of `<T as super::Trait>::Item` is cut short by rehoming: in the child module it
    reads as the parent of the declaring module, and `Trait` belongs to the names behind it. -/
theorem readings_traitOfParent_ne :
    ∃ type ∈ parseType? "<T as super::Trait>::Item",
      (∀ path ∈ type.paths, climbs path ≤ Naming.moduleDepth "crate::m") ∧
      type.readings (standpoint "crate::m" "Owner") =
        [.written false ["T"], .divided (.place (some ["crate", "Trait"])) ["Item"]] ∧
      ∃ moved ∈ (rehomeType type "Owner" (Naming.moduleDepth "crate::m")).toOption,
        moved.readings ((standpoint "crate::m" "Owner").child "deltas") =
          [.written false ["T"], .divided (.place (some ["crate"])) ["Trait", "Item"]] ∧
        moved.readings ((standpoint "crate::m" "Owner").child "deltas") ≠
          type.readings (standpoint "crate::m" "Owner") := by
  decide +kernel

end FieldDelta
