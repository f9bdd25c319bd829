import FieldDelta.Decimal.Shortest

/-! # Writing numbers

A number is written with the fewest digits that read back.  Numbers of a moderate size are
written positionally and always with a fraction, all others as one digit, the fraction if there
is one, and a power of ten.
-/

namespace FieldDelta.Decimal

/-- The powers of ten that are written positionally: from `least` on, below `limit`. -/
structure PositionalRange where
  least : Int
  limit : Int
deriving DecidableEq, Repr

/-- Numbers from a ten-thousandth on and below `10 ^ 16` are written positionally. -/
def moderate : PositionalRange := ⟨-4, 16⟩

def orZero (digits : List Char) : List Char :=
  if digits.isEmpty then ['0'] else digits

namespace Digits

def positional (decimal : Digits) : List Char :=
  if decimal.exponent < 0 then
    ['0', '.'] ++ List.replicate (-decimal.exponent - 1).toNat '0' ++ decimal.digits
  else
    let wholeLength := decimal.exponent.toNat + 1
    let padding := List.replicate (wholeLength - decimal.digits.length) '0'
    decimal.digits.take wholeLength ++ padding ++ '.' :: orZero (decimal.digits.drop wholeLength)

/-- The first digit, the others after a point, and the power of ten. -/
def scientific (decimal : Digits) : List Char :=
  let fraction := match decimal.digits.drop 1 with
    | [] => []
    | rest => '.' :: rest
  decimal.digits.take 1 ++ fraction ++ 'e' :: (toString decimal.exponent).toList

def written (range : PositionalRange) (decimal : Digits) : List Char :=
  if range.least ≤ decimal.exponent && decimal.exponent < range.limit then decimal.positional
  else decimal.scientific

end Digits
end FieldDelta.Decimal

namespace FieldDelta

def signText (negative : Bool) : String :=
  if negative then "-" else ""

def Binary64.text : Binary64 → String
  | .nan => "NaN"
  | .infinite negative => signText negative ++ "inf"
  | .finite negative significand exponent =>
    signText negative ++
      if significand = 0 then "0.0"
      else String.ofList ((Decimal.shortest significand exponent).written Decimal.moderate)

end FieldDelta
