import FieldDelta.Syntax.Grammar.Path

/-! # Attributes and visibilities

* `Grammar.outerAttributes`, `Grammar.innerAttributes` — the attributes in front of an item and
  those inside it;
* `Grammar.visibility` — `pub` and its restrictions.
-/

namespace FieldDelta.Syntax.Grammar

open Reader

/-- The path of an attribute, which may also be the keyword `unsafe`. -/
def attributePath : Reader Path := do
  if ← ahead (Ahead.word "unsafe") then
    let (name, _) ← captured anyIdent
    emit [.path (Path.ofNames [name])]
    return Path.ofNames [name]
  else plainPath

/-- What follows the path of an attribute: a group of raw tokens, a value, or nothing.  A single
    literal is a value; any other value is an expression that is no attribute. -/
def attributeInput (rules : Rules) : Reader AttributeInput := do
  match ← upcoming with
  | .group _ _ :: _ =>
    let (delimiter, tokens) ← rawGroup
    return .arguments delimiter tokens
  | trees =>
    if Ahead.op "=" trees then
      op "="
      let trees ← upcoming
      if Ahead.op "#" trees && Ahead.group .bracket (trees.drop 1) then failure
      let phrase ← phraseOf rules.value
      emit phrase
      return .value phrase
    else return .none

/-- The contents of an attribute's brackets. -/
def attributeBody (rules : Rules) (inner : Bool) : Reader Attribute := do
  let path ← attributePath
  let input ← attributeInput rules
  return { inner := inner, path := path, input := input }

/-- An attribute `#[…]`. -/
def outerAttribute (rules : Rules) : Reader Attribute := do
  op "#"
  group .bracket (attributeBody rules false)

/-- An attribute `#![…]`. -/
def innerAttribute (rules : Rules) : Reader Attribute := do
  op "#"
  op "!"
  group .bracket (attributeBody rules true)

/-- Repeats `element` while `more` holds of the trees to come, at most `limit` times. -/
def attributesWhile (more : List TokenTree → Bool) (element : Reader Attribute) :
    Nat → Reader (List Attribute)
  | 0 => failure
  | limit + 1 => do
    if ← ahead more then
      let first ← element
      return first :: (← attributesWhile more element limit)
    else return []

def outerAttributes (rules : Rules) : Reader (List Attribute) := do
  attributesWhile (Ahead.op "#") (outerAttribute rules) ((← upcoming).length + 1)

def innerAttributes (rules : Rules) : Reader (List Attribute) := do
  inTurn .attributes
    (attributesWhile (fun trees => Ahead.op "#" trees && Ahead.op "!" (trees.drop 1))
      (innerAttribute rules) ((← upcoming).length + 1))

/-- What stands in the parentheses behind `pub`, if it restricts the visibility. -/
def restriction : Reader Visibility := do
  if ← ahead (Ahead.word "in") then
    word "in"
    return .restricted true (← plainPath)
  else
    let name ← wordWith (["crate", "self", "super"].contains ·)
    return .restricted false (Path.ofNames [name])

/-- The visibility in front of a declaration.  Parentheses behind `pub` that hold no restriction
    do not belong to it. -/
def visibility : Reader Visibility := do
  if ← word? "pub" then
    match ← upcoming with
    | .group .paren inner :: rest =>
      match (within inner restriction).run { rest := [] } with
      | some ((.restricted inPath path, _), _) =>
        let lead := if inPath then [Fragment.token (.word "in")] else []
        advance rest [.group .paren (lead ++ [.path path])]
        return .restricted inPath path
      | _ => return .pub
    | _ => return .pub
  else return .inherited

end FieldDelta.Syntax.Grammar
