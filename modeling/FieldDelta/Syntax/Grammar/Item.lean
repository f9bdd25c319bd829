import FieldDelta.Syntax.Grammar.Import
import FieldDelta.Syntax.Grammar.Member

/-! # Items

`Grammar.item` reads an item of any kind.  Type declarations, modules and imports are answered
with their contents; every other item is only recognised.
-/

namespace FieldDelta.Syntax.Grammar

open Reader

/-! ## Modules and items -/

/-- Items up to the end of the trees, at most `limit`. -/
def itemsWithin (rules : Rules) : Nat → Reader (List Item)
  | 0 => failure
  | limit + 1 => do
    if ← atEnd then return []
    let first ← rules.item
    return first :: (← itemsWithin rules limit)

/-- Items up to the end of the trees. -/
def items (rules : Rules) : Reader (List Item) := do
  itemsWithin rules ((← upcoming).length + 1)

/-- A module.  The attributes inside it count as its own. -/
def moduleItem (rules : Rules) (attributes : List Attribute) : Reader Item := do
  let _ ← word? "unsafe"
  word "mod"
  let name ← wordWith fun text => text == "try" || !Ahead.isReserved text
  if ← op? ";" then return .submodule attributes name none
  else
    group .brace do
      let inner ← innerAttributes rules
      return .submodule (attributes ++ inner) name (some (← items rules))

/-- Recognises an item without contents of interest. -/
def other (reader : Reader Unit) : Reader (Item × Bool) := do
  reader
  return (.other, false)

/-- Recognises an item without contents of interest that may stay raw. -/
def perhapsRaw (reader : Reader Bool) : Reader (Item × Bool) := do
  return (.other, ← reader)

/-- An item that begins with `extern` and is no function.  A foreign block has no visibility. -/
def externItem (rules : Rules) (inherited : Bool) : Reader (Item × Bool) := do
  if ← ahead (fun trees => Ahead.word "crate" (trees.drop 1)) then other externCrate
  else if inherited then other (foreignBlock rules)
  else failure

/-- An item that begins with `unsafe` and is no function. -/
def unsafeItem (rules : Rules) (attributes : List Attribute) (inherited : Bool) :
    Reader (Item × Bool) := do
  let next := (← upcoming).drop 1
  if Ahead.word "trait" next || Ahead.word "auto" next then other (traitItem rules)
  else if Ahead.word "impl" next then perhapsRaw (implItem rules inherited)
  else if Ahead.word "extern" next then
    if inherited then other (foreignBlock rules) else failure
  else return (← moduleItem rules attributes, false)

/-- A constant or a type alias.  It stays raw without a value or a type, and if it has what only
    associated items have. -/
def valueItem (rules : Rules) : Reader Bool := do
  if ← ahead (Ahead.word "const") then
    let found ← constantItem rules
    return found.generic || !found.hasValue
  else
    let found ← typeItem rules ⟨true, false⟩
    return found.hasBounds || !found.hasType

/-- An item behind its attributes.  Answers whether it stays raw. -/
def itemBody (rules : Rules) (attributes : List Attribute) : Reader (Item × Bool) := do
  let seen ← inTurn .visibility visibility
  let trees ← upcoming
  let inherited := seen.isInherited
  if functionAhead false trees then perhapsRaw (functionItem rules)
  else if Ahead.word "extern" trees then externItem rules inherited
  else if Ahead.word "use" trees then useItem
  else if Ahead.word "static" trees then perhapsRaw (staticItem rules)
  else if Ahead.word "const" trees || Ahead.word "type" trees then perhapsRaw (valueItem rules)
  else if Ahead.word "unsafe" trees then unsafeItem rules attributes inherited
  else if Ahead.word "mod" trees then return (← moduleItem rules attributes, false)
  else if (declarationAhead trees).isSome then
    return (← typeDeclaration rules attributes seen, false)
  else if Ahead.word "trait" trees
      || (Ahead.word "auto" trees && Ahead.word "trait" (trees.drop 1)) then
    other (traitItem rules)
  else if Ahead.word "impl" trees
      || (Ahead.word "default" trees && !Ahead.op "!" (trees.drop 1)) then
    perhapsRaw (implItem rules inherited)
  else if Ahead.word "macro" trees then
    perhapsRaw do
      macroDefinition
      return true
  else if inherited then other macroItem
  else failure

def item (rules : Rules) : Reader Item :=
  rawWhen do
    let attributes ← outerAttributes rules
    construct (itemBody rules attributes)

end FieldDelta.Syntax.Grammar
