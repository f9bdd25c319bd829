/-! # Binary numbers of double precision

A finite number is a significand of at most 53 bits times a power of two.  Its exponent is at
least `-1074`, and its significand has 53 bits unless its exponent is that least one.  Beside
the finite numbers there are two infinities and one value that is no number.

* `same` — the equality of numbers: no number differs from itself but `nan`, and the two zeros
  are equal.
* `ofRatio` — the number nearest to a quotient; of two equally near, the one with the even
  significand.
-/

namespace FieldDelta

/-- A number of double precision. -/
inductive Binary64 where
  | nan
  | infinite (negative : Bool)
  /-- The number `significand * 2 ^ exponent`, with its sign. -/
  | finite (negative : Bool) (significand : Nat) (exponent : Int)
deriving DecidableEq, Repr

namespace Binary64

/-- The exponent of the smallest positive number. -/
def leastExponent : Int := -1074

def greatestExponent : Int := 971

/-- The first significand that has more bits than fit. -/
def significandLimit : Nat := Nat.pow 2 53

def zero (negative : Bool) : Binary64 :=
  .finite negative 0 leastExponent

def same : Binary64 → Binary64 → Bool
  | .finite s m e, .finite t n f => (m == 0 && n == 0) || (s == t && m == n && e == f)
  | .infinite s, .infinite t => s == t
  | _, _ => false

/-! ## Rounding -/

/-- The integer nearest to `num / den`; a tie goes to the even neighbour. -/
def roundHalfEven (num den : Nat) : Nat :=
  let down := num / den
  let twice := 2 * (num % den)
  if twice < den || (twice == den && down % 2 == 0) then down else down + 1

/-- The ratio `num / den` divided by `2 ^ exponent`, as a ratio. -/
def scaleDown (num den : Nat) (exponent : Int) : Nat × Nat :=
  (num * Nat.pow 2 (-exponent).toNat, den * Nat.pow 2 exponent.toNat)

/-- The exponent at which `num / den` has a significand of 53 bits, or the least exponent if
    that one is greater. -/
def unitExponent (num den : Nat) : Int :=
  let guess : Int := (num.log2 : Int) - (den.log2 : Int) - 52
  let (scaledNum, scaledDen) := scaleDown num den guess
  max leastExponent (if 2 * scaledNum < significandLimit * scaledDen then guess - 1 else guess)

/-- The number nearest to `num / den`, with the given sign. -/
def ofRatio (negative : Bool) (num den : Nat) : Binary64 :=
  if num = 0 then zero negative
  else
    let exponent := unitExponent num den
    let (scaledNum, scaledDen) := scaleDown num den exponent
    let rounded := roundHalfEven scaledNum scaledDen
    let (significand, exponent) :=
      if rounded = significandLimit then (rounded / 2, exponent + 1) else (rounded, exponent)
    if exponent > greatestExponent then .infinite negative
    else .finite negative significand exponent

end Binary64
end FieldDelta
