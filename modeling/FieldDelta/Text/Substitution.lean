/-! # Substitution and trimming

* `replaceAll` replaces every occurrence of a pattern, left to right and without overlap;
* `trim` drops blank characters at both ends.
-/

namespace FieldDelta.Text

/-- Reads `cs` from left to right.  `skip` counts the characters that still belong to the
    occurrence of `pattern` last replaced. -/
def replaceFrom (pattern replacement : List Char) (skip : Nat) : List Char → List Char
  | [] => []
  | c :: rest =>
    match skip with
    | k + 1 => replaceFrom pattern replacement k rest
    | 0 =>
      if pattern.isPrefixOf (c :: rest) then
        replacement ++ replaceFrom pattern replacement (pattern.length - 1) rest
      else
        c :: replaceFrom pattern replacement 0 rest

/-- Replaces every occurrence of a non-empty pattern, left to right and without overlap. -/
def replaceAll (pattern replacement : String) (cs : List Char) : List Char :=
  replaceFrom pattern.toList replacement.toList 0 cs

/-- Whether `c` is white space: the property `White_Space` of Unicode. -/
def isBlank (c : Char) : Bool :=
  let n := c.toNat
  (0x09 ≤ n && n ≤ 0x0D) || n == 0x20 || n == 0x85 || n == 0xA0 || n == 0x1680
    || (0x2000 ≤ n && n ≤ 0x200A) || n == 0x2028 || n == 0x2029 || n == 0x202F
    || n == 0x205F || n == 0x3000

/-- Drops the characters at the end that satisfy `p`. -/
def dropRightWhile (p : Char → Bool) (cs : List Char) : List Char :=
  (cs.reverse.dropWhile p).reverse

/-- Drops the blank characters at both ends. -/
def trim (cs : List Char) : List Char :=
  dropRightWhile isBlank (cs.dropWhile isBlank)

end FieldDelta.Text
