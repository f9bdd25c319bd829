import FieldDelta.Rehoming
import Mathlib.Tactic.SplitIfs

/-! # Phrases laid flat

The paths of a phrase stand in trees: in arguments of other paths, in bounds, in groups.  Laying
a phrase flat takes them out and leaves everything in its order.  On a phrase laid flat, rehoming
is the same change at every place, whatever the tree around it:

* `Phrase.leaves` — the phrase laid flat;
* `leaves_rehome` — rehoming a phrase rehomes its leaves.
-/

namespace FieldDelta.Syntax

/-! ## Leaves -/

/-- A piece of a phrase laid flat. -/
inductive Leaf where
  /-- A token by its text, and whether the next one belongs to it. -/
  | token (chars : List Char) (joint : Bool)
  /-- The beginning of a group; `none` stands for angle brackets. -/
  | opening (delimiter : Option Delimiter)
  | closing (delimiter : Option Delimiter)
  /-- A path by the names of its segments.  Their arguments follow it. -/
  | path (leading : Bool) (names : List String)
  /-- `<T as Trait>::rest`, whose first `position` names are the trait's.  `T` precedes it. -/
  | qualified (position : Nat) (leading : Bool) (names : List String)
deriving DecidableEq, Repr

mutual

/-- A fragment laid flat. -/
def Fragment.leaves : Fragment → List Leaf
  | .token tree => [.token tree.chars tree.isJoint]
  | .path (.mk leading segments) =>
    .path leading (segments.map Segment.name) :: Segment.leavesOfList segments
  | .qualified self position (.mk leading segments) =>
    Fragment.leavesOfList self ++
      .qualified position leading (segments.map Segment.name) :: Segment.leavesOfList segments
  | .group delimiter inner =>
    .opening delimiter :: Fragment.leavesOfList inner ++ [.closing delimiter]
  | .angle elements _ => .opening none :: Argument.leavesOfList elements ++ [.closing none]
  | .part _ inner => Fragment.leavesOfList inner
  | .construct inner => Fragment.leavesOfList inner
  | .implied type => Fragment.leavesOfList type

def Fragment.leavesOfList : List Fragment → List Leaf
  | [] => []
  | fragment :: rest => fragment.leaves ++ Fragment.leavesOfList rest

/-- The arguments of segments laid flat. -/
def Segment.leavesOfList : List Segment → List Leaf
  | [] => []
  | .mk _ arguments :: rest => arguments.leaves ++ Segment.leavesOfList rest

def Arguments.leaves : Arguments → List Leaf
  | .none => []
  | .angle _ arguments _ => .opening none :: Argument.leavesOfList arguments ++ [.closing none]
  | .parenthesized phrase => Fragment.leavesOfList phrase

def Argument.leavesOfList : List Argument → List Leaf
  | [] => []
  | .mk _ phrase :: rest => Fragment.leavesOfList phrase ++ Argument.leavesOfList rest

end

/-- A phrase laid flat. -/
def Phrase.leaves (phrase : Phrase) : List Leaf :=
  Fragment.leavesOfList phrase

/-! ## Rehoming names -/

/-- The names of a path, seen from one module deeper. -/
def rehomeNames (owner : String) (leading : Bool) (names : List String) : List String :=
  if leading then names
  else
    match names with
    | [] => []
    | first :: rest =>
      if first = "Self" then "super" :: ownerIdentifier owner :: rest
      else if first = "self" then "super" :: rest
      else if first = "super" then "super" :: first :: rest
      else names

/-- A leaf seen from one module deeper.  The position of a qualified path is kept. -/
def Leaf.rehome (owner : String) : Leaf → Leaf
  | .path leading names => .path leading (rehomeNames owner leading names)
  | .qualified position leading names =>
    .qualified position leading (rehomeNames owner leading names)
  | leaf => leaf

variable {owner : String}

theorem names_rehomeList (segments : List Segment) :
    (Segment.rehomeList owner segments).map Segment.name = segments.map Segment.name := by
  induction segments with
  | nil => rfl
  | cons segment rest ih =>
    cases segment
    simp only [Segment.rehomeList, List.map_cons, ih, Segment.name]

theorem names_rehomePathSegments (leading : Bool) (segments : List Segment) :
    (rehomePathSegments owner leading segments).map Segment.name =
      rehomeNames owner leading (segments.map Segment.name) := by
  cases leading with
  | true => rfl
  | false =>
    cases segments with
    | nil => rfl
    | cons first rest =>
      simp only [rehomePathSegments, rehomeNames, rehomeSegments, List.map_cons,
        Bool.false_eq_true, if_false]
      split_ifs <;> rfl

/-- Rehoming puts segments in front of a path that have no arguments. -/
theorem leavesOfList_rehomePathSegments (leading : Bool) (segments : List Segment) :
    Segment.leavesOfList (rehomePathSegments owner leading segments) =
      Segment.leavesOfList segments := by
  cases leading with
  | true => rfl
  | false =>
    cases segments with
    | nil => rfl
    | cons first rest =>
      obtain ⟨name, arguments⟩ := first
      simp only [rehomePathSegments, rehomeSegments, Bool.false_eq_true, if_false]
      split_ifs <;> simp [Segment.leavesOfList, Segment.renamed, Segment.plain, Arguments.leaves,
        Segment.arguments]

/-! ## Rehoming phrases -/

mutual

theorem Fragment.leaves_rehome (fragment : Fragment) :
    (fragment.rehome owner).leaves = fragment.leaves.map (Leaf.rehome owner) := by
  cases fragment with
  | token tree => rfl
  | path path =>
    obtain ⟨leading, segments⟩ := path
    simp only [Fragment.rehome, Path.rehome, Fragment.leaves, names_rehomePathSegments,
      names_rehomeList, leavesOfList_rehomePathSegments, Segment.leavesOfList_rehome segments,
      List.map_cons, Leaf.rehome]
  | qualified self position path =>
    obtain ⟨leading, segments⟩ := path
    simp only [Fragment.rehome, Path.rehome, Fragment.leaves, names_rehomePathSegments,
      names_rehomeList, leavesOfList_rehomePathSegments, Segment.leavesOfList_rehome segments,
      Fragment.leavesOfList_rehome self, List.map_append, List.map_cons, Leaf.rehome]
  | group delimiter inner =>
    simp [Fragment.rehome, Fragment.leaves, Fragment.leavesOfList_rehome inner, Leaf.rehome]
  | angle elements trailing =>
    simp [Fragment.rehome, Fragment.leaves, Argument.leavesOfList_rehome elements, Leaf.rehome]
  | part turn inner =>
    simp only [Fragment.rehome, Fragment.leaves, Fragment.leavesOfList_rehome inner]
  | construct inner =>
    simp only [Fragment.rehome, Fragment.leaves, Fragment.leavesOfList_rehome inner]
  | implied type =>
    simp only [Fragment.rehome, Fragment.leaves, Fragment.leavesOfList_rehome type]

theorem Fragment.leavesOfList_rehome (phrase : List Fragment) :
    Fragment.leavesOfList (Fragment.rehomeList owner phrase) =
      (Fragment.leavesOfList phrase).map (Leaf.rehome owner) := by
  cases phrase with
  | nil => rfl
  | cons fragment rest =>
    simp only [Fragment.rehomeList, Fragment.leavesOfList, Fragment.leaves_rehome fragment,
      Fragment.leavesOfList_rehome rest, List.map_append]

theorem Segment.leavesOfList_rehome (segments : List Segment) :
    Segment.leavesOfList (Segment.rehomeList owner segments) =
      (Segment.leavesOfList segments).map (Leaf.rehome owner) := by
  cases segments with
  | nil => rfl
  | cons segment rest =>
    obtain ⟨name, arguments⟩ := segment
    simp only [Segment.rehomeList, Segment.leavesOfList, Arguments.leaves_rehome arguments,
      Segment.leavesOfList_rehome rest, List.map_append]

theorem Arguments.leaves_rehome (arguments : Arguments) :
    (arguments.rehome owner).leaves = arguments.leaves.map (Leaf.rehome owner) := by
  cases arguments with
  | none => rfl
  | angle turbofish elements trailing =>
    simp [Arguments.rehome, Arguments.leaves, Argument.leavesOfList_rehome elements, Leaf.rehome]
  | parenthesized phrase =>
    simp only [Arguments.rehome, Arguments.leaves, Fragment.leavesOfList_rehome phrase]

theorem Argument.leavesOfList_rehome (elements : List Argument) :
    Argument.leavesOfList (Argument.rehomeList owner elements) =
      (Argument.leavesOfList elements).map (Leaf.rehome owner) := by
  cases elements with
  | nil => rfl
  | cons argument rest =>
    obtain ⟨kind, phrase⟩ := argument
    simp only [Argument.rehomeList, Argument.leavesOfList, Fragment.leavesOfList_rehome phrase,
      Argument.leavesOfList_rehome rest, List.map_append]

end

/-- Rehoming a phrase rehomes its leaves. -/
theorem leaves_rehome (phrase : Phrase) :
    (phrase.rehome owner).leaves = phrase.leaves.map (Leaf.rehome owner) :=
  Fragment.leavesOfList_rehome phrase

end FieldDelta.Syntax
