import FieldDelta.Syntax.Item

/-! # Equality of syntax trees

Tokens, phrases and items can be compared.  Each comparison is a function to truth values, which
recurses on both trees at once, and its specification.
-/

namespace FieldDelta.Syntax

/-! ## Tokens -/

namespace TokenTree

mutual

def isSame : TokenTree → TokenTree → Bool
  | word a, word b => a == b
  | punct a joint, punct b joint' => a == b && joint == joint'
  | literal a, literal b => a == b
  | group delimiter inner, group delimiter' inner' =>
    delimiter == delimiter' && isSameList inner inner'
  | _, _ => false

def isSameList : List TokenTree → List TokenTree → Bool
  | [], [] => true
  | a :: rest, b :: rest' => isSame a b && isSameList rest rest'
  | _, _ => false

end

mutual

theorem isSame_iff (a b : TokenTree) : isSame a b = true ↔ a = b := by
  cases a <;> cases b <;> simp [isSame, isSameList_iff]

theorem isSameList_iff (a b : List TokenTree) : isSameList a b = true ↔ a = b := by
  cases a <;> cases b <;> simp [isSameList, isSame_iff, isSameList_iff]

end

instance : DecidableEq TokenTree := fun a b =>
  decidable_of_iff _ (isSame_iff a b)

end TokenTree

/-! ## Phrases -/

mutual

def Fragment.isSame : Fragment → Fragment → Bool
  | .token a, .token b => a == b
  | .path a, .path b => a.isSame b
  | .qualified self position path, .qualified self' position' path' =>
    Fragment.isSameList self self' && position == position' && path.isSame path'
  | .group delimiter inner, .group delimiter' inner' =>
    delimiter == delimiter' && Fragment.isSameList inner inner'
  | .angle elements trailing, .angle elements' trailing' =>
    Argument.isSameList elements elements' && trailing == trailing'
  | .part turn inner, .part turn' inner' => turn == turn' && Fragment.isSameList inner inner'
  | .construct inner, .construct inner' => Fragment.isSameList inner inner'
  | .implied type, .implied type' => Fragment.isSameList type type'
  | _, _ => false

def Fragment.isSameList : List Fragment → List Fragment → Bool
  | [], [] => true
  | a :: rest, b :: rest' => a.isSame b && Fragment.isSameList rest rest'
  | _, _ => false

def Path.isSame : Path → Path → Bool
  | .mk leading segments, .mk leading' segments' =>
    leading == leading' && Segment.isSameList segments segments'

def Segment.isSame : Segment → Segment → Bool
  | .mk name arguments, .mk name' arguments' => name == name' && arguments.isSame arguments'

def Segment.isSameList : List Segment → List Segment → Bool
  | [], [] => true
  | a :: rest, b :: rest' => a.isSame b && Segment.isSameList rest rest'
  | _, _ => false

def Arguments.isSame : Arguments → Arguments → Bool
  | .none, .none => true
  | .angle turbofish arguments trailing, .angle turbofish' arguments' trailing' =>
    turbofish == turbofish' && Argument.isSameList arguments arguments' && trailing == trailing'
  | .parenthesized phrase, .parenthesized phrase' => Fragment.isSameList phrase phrase'
  | _, _ => false

def Argument.isSame : Argument → Argument → Bool
  | .mk kind phrase, .mk kind' phrase' => kind == kind' && Fragment.isSameList phrase phrase'

def Argument.isSameList : List Argument → List Argument → Bool
  | [], [] => true
  | a :: rest, b :: rest' => a.isSame b && Argument.isSameList rest rest'
  | _, _ => false

end

mutual

theorem Fragment.isSame_iff (a b : Fragment) : a.isSame b = true ↔ a = b := by
  cases a <;> cases b <;>
    simp [Fragment.isSame, Fragment.isSameList_iff, Path.isSame_iff, Argument.isSameList_iff, and_assoc]
termination_by structural a

theorem Fragment.isSameList_iff (a b : List Fragment) : Fragment.isSameList a b = true ↔ a = b := by
  cases a <;> cases b <;> simp [Fragment.isSameList, Fragment.isSame_iff, Fragment.isSameList_iff]
termination_by structural a

theorem Path.isSame_iff (a b : Path) : a.isSame b = true ↔ a = b := by
  cases a
  cases b
  simp [Path.isSame, Segment.isSameList_iff]
termination_by structural a

theorem Segment.isSame_iff (a b : Segment) : a.isSame b = true ↔ a = b := by
  cases a
  cases b
  simp [Segment.isSame, Arguments.isSame_iff]
termination_by structural a

theorem Segment.isSameList_iff (a b : List Segment) : Segment.isSameList a b = true ↔ a = b := by
  cases a <;> cases b <;> simp [Segment.isSameList, Segment.isSame_iff, Segment.isSameList_iff]
termination_by structural a

theorem Arguments.isSame_iff (a b : Arguments) : a.isSame b = true ↔ a = b := by
  cases a <;> cases b <;>
    simp [Arguments.isSame, Argument.isSameList_iff, Fragment.isSameList_iff, and_assoc]
termination_by structural a

theorem Argument.isSame_iff (a b : Argument) : a.isSame b = true ↔ a = b := by
  cases a
  cases b
  simp [Argument.isSame, Fragment.isSameList_iff]
termination_by structural a

theorem Argument.isSameList_iff (a b : List Argument) : Argument.isSameList a b = true ↔ a = b := by
  cases a <;> cases b <;> simp [Argument.isSameList, Argument.isSame_iff, Argument.isSameList_iff]
termination_by structural a

end

instance : DecidableEq Fragment := fun a b =>
  decidable_of_iff _ (Fragment.isSame_iff a b)

instance : DecidableEq Path := fun a b =>
  decidable_of_iff _ (Path.isSame_iff a b)

/-! ## Items -/

deriving instance DecidableEq for AttributeInput
deriving instance DecidableEq for Attribute
deriving instance DecidableEq for Visibility
deriving instance DecidableEq for Field
deriving instance DecidableEq for Fields
deriving instance DecidableEq for Declaration

mutual

def UseTree.isSame : UseTree → UseTree → Bool
  | .path a tree, .path b tree' => a == b && tree.isSame tree'
  | .name a, .name b => a == b
  | .rename a newName, .rename b newName' => a == b && newName == newName'
  | .glob, .glob => true
  | .group trees, .group trees' => UseTree.isSameList trees trees'
  | _, _ => false

def UseTree.isSameList : List UseTree → List UseTree → Bool
  | [], [] => true
  | a :: rest, b :: rest' => a.isSame b && UseTree.isSameList rest rest'
  | _, _ => false

end

mutual

theorem UseTree.isSame_iff (a b : UseTree) : a.isSame b = true ↔ a = b := by
  cases a <;> cases b <;> simp [UseTree.isSame, UseTree.isSame_iff, UseTree.isSameList_iff]

theorem UseTree.isSameList_iff (a b : List UseTree) : UseTree.isSameList a b = true ↔ a = b := by
  cases a <;> cases b <;> simp [UseTree.isSameList, UseTree.isSame_iff, UseTree.isSameList_iff]

end

mutual

def Item.isSame : Item → Item → Bool
  | .struct decl fields, .struct decl' fields' => decl == decl' && fields == fields'
  | .enum decl variants, .enum decl' variants' => decl == decl' && variants == variants'
  | .union decl fields, .union decl' fields' => decl == decl' && fields == fields'
  | .submodule attributes name contents, .submodule attributes' name' contents' =>
    attributes == attributes' && name == name' && Item.isSameContents contents contents'
  | .use leading tree, .use leading' tree' => leading == leading' && tree.isSame tree'
  | .other, .other => true
  | _, _ => false

def Item.isSameList : List Item → List Item → Bool
  | [], [] => true
  | a :: rest, b :: rest' => a.isSame b && Item.isSameList rest rest'
  | _, _ => false

def Item.isSameContents : Option (List Item) → Option (List Item) → Bool
  | none, none => true
  | some a, some b => Item.isSameList a b
  | _, _ => false

end

mutual

theorem Item.isSame_iff (a b : Item) : a.isSame b = true ↔ a = b := by
  cases a <;> cases b <;> simp [Item.isSame, UseTree.isSame_iff, Item.isSameContents_iff, and_assoc]
termination_by structural a

theorem Item.isSameList_iff (a b : List Item) : Item.isSameList a b = true ↔ a = b := by
  cases a <;> cases b <;> simp [Item.isSameList, Item.isSame_iff, Item.isSameList_iff]
termination_by structural a

theorem Item.isSameContents_iff (a b : Option (List Item)) :
    Item.isSameContents a b = true ↔ a = b := by
  cases a <;> cases b <;> simp [Item.isSameContents, Item.isSameList_iff]
termination_by structural a

end

instance : DecidableEq Item := fun a b =>
  decidable_of_iff _ (Item.isSame_iff a b)

end FieldDelta.Syntax
