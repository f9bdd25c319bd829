import FieldDelta.Syntax.Grammar.Declaration

/-! # Imports

`useItem` reads a `use` item and answers what it brings in.
-/

namespace FieldDelta.Syntax.Grammar

open Reader

/-- Whether a segment of an import comes next. -/
def useSegment (text : String) : Bool :=
  !Ahead.isReserved text || ["self", "super", "crate", "try"].contains text

/-- What a `use` item brings in.  `rooted` says whether a leading `::` may stand in a group here;
    an import with one there is legal but brings in nothing, which the second part of the answer
    tells. -/
def useTree (rooted : Bool) : Nat → Reader (UseTree × Bool)
  | 0 => failure
  | limit + 1 => do
    let trees ← upcoming
    if Ahead.op "*" trees then
      op "*"
      return (.glob, false)
    else if Ahead.group .brace trees then
      let (found, _) ← group .brace <| commaList do
        let root ← if rooted then op? "::" else pure false
        let (tree, dropped) ← useTree (rooted && !root) limit
        return (tree, root || dropped)
      return (.group (found.map (·.1)), found.any (·.2))
    else
      let name ← wordWith useSegment
      if ← op? "::" then
        let (tree, dropped) ← useTree false limit
        return (.path name tree, dropped)
      else if ← word? "as" then
        let newName ← wordWith fun text => text == "_" || !Ahead.isReserved text
        return (.rename name newName, false)
      else return (.name name, false)

/-- An import, behind its visibility.  One that brings in nothing stays raw, which the second
    part of the answer tells. -/
def useItem : Reader (Item × Bool) := do
  word "use"
  let leading ← op? "::"
  let limit := TokenTree.sizeOfList (← upcoming) + 1
  let (tree, dropped) ← useTree (!leading) limit
  op ";"
  return (if dropped then .other else .use leading tree, dropped)

end FieldDelta.Syntax.Grammar
