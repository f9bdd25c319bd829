import FieldDelta.Decimal.Binary64

/-! # The fewest digits that read back

Every positive number of double precision is the nearest one to all reals of an interval around
it.  The bounds of the interval belong to it iff the significand is even.  `shortest` gives the
decimal with the fewest digits that lies in the interval; where two decimals of that length do,
it gives the nearer one, and the upper one if they are equally near.

If a decimal of `n` digits lies in the interval, so does one of the two neighbours of the number
on the grid of such decimals, so only these are tried.
-/

namespace FieldDelta.Decimal

/-- A positive decimal: its digits, and the power of ten of the first one. -/
structure Digits where
  digits : List Char
  exponent : Int
deriving DecidableEq, Repr

/-- The reals that round to a positive number, as multiples of a common unit `num / den`. -/
structure RoundingInterval where
  value : Nat
  low : Nat
  high : Nat
  /-- Whether the bounds round to the number too. -/
  closed : Bool
  unitNum : Nat
  unitDen : Nat
deriving DecidableEq, Repr

namespace RoundingInterval

/-- The interval of `significand * 2 ^ exponent`.  The gap below a power of two is half as wide
    as the one above it. -/
def of (significand : Nat) (exponent : Int) : RoundingInterval :=
  let narrow := significand == Binary64.significandLimit / 2 &&
    decide (exponent > Binary64.leastExponent)
  let quarter := exponent - 2
  { value := 4 * significand
    low := 4 * significand - (if narrow then 1 else 2)
    high := 4 * significand + 2
    closed := significand % 2 == 0
    unitNum := Nat.pow 2 quarter.toNat
    unitDen := Nat.pow 2 (-quarter).toNat }

/-- Whether the ratio `num / den` is in the interval. -/
def contains (interval : RoundingInterval) (num den : Nat) : Bool :=
  let point := num * interval.unitDen
  let low := interval.low * interval.unitNum * den
  let high := interval.high * interval.unitNum * den
  if interval.closed then decide (low ≤ point) && decide (point ≤ high)
  else decide (low < point) && decide (point < high)

/-- The power of ten of the leading digit of the value. -/
def leadingExponent (interval : RoundingInterval) : Int :=
  let num := interval.value * interval.unitNum
  let den := interval.unitDen
  if den ≤ num then (Nat.toDigits 10 (num / den)).length - 1
  else -((Nat.toDigits 10 ((den - 1) / num)).length : Int)

/-- The decimal of `count` digits next to the value and in the interval, as a multiple of the
    power of ten that comes with it. -/
def onGrid? (interval : RoundingInterval) (count : Nat) : Option (Nat × Int) :=
  let scale := interval.leadingExponent - (count : Int) + 1
  let stepNum := Nat.pow 10 scale.toNat
  let stepDen := Nat.pow 10 (-scale).toNat
  let num := interval.value * interval.unitNum * stepDen
  let den := interval.unitDen * stepNum
  let down := num / den
  let up := down + 1
  let downIn := interval.contains (down * stepNum) stepDen
  let upIn := interval.contains (up * stepNum) stepDen
  let upNearer := decide (2 * (num % den) ≥ den)
  if upIn && (upNearer || !downIn) then some (up, scale)
  else if downIn then some (down, scale)
  else none

end RoundingInterval

/-- Seventeen digits tell any two numbers apart. -/
def enoughDigits : Nat := 17

/-- The digits of `multiple * 10 ^ scale`, without zeros at the end. -/
def Digits.ofMultiple (multiple : Nat) (scale : Int) : Digits :=
  let all := Nat.toDigits 10 multiple
  { digits := (all.reverse.dropWhile (· == '0')).reverse
    exponent := scale + all.length - 1 }

/-- The decimal with the fewest digits that reads back as `significand * 2 ^ exponent`. -/
def shortest (significand : Nat) (exponent : Int) : Digits :=
  let interval := RoundingInterval.of significand exponent
  match (List.range enoughDigits).findSome? fun n => interval.onGrid? (n + 1) with
  | some (multiple, scale) => .ofMultiple multiple scale
  | none => .ofMultiple significand exponent

end FieldDelta.Decimal
