import FieldDelta.Decimal.Binary64

/-! # Reading numbers

Numbers are written in decimal.  An integer is an optional sign and at least one digit.  A
number of double precision may have a fraction and an exponent, and its digits may be missing
on one side of the point; the words for infinity and for the value that is no number are read
in any case.

* `readInteger?` — an integer;
* `readBinary64?` — the number of double precision nearest to what is written.
-/

namespace FieldDelta.Decimal

/-- The number that a run of decimal digits denotes. -/
def digitsValue (digits : List Char) : Nat :=
  digits.foldl (fun n c => 10 * n + (c.toNat - '0'.toNat)) 0

def readDigits? (cs : List Char) : Option Nat :=
  if !cs.isEmpty && cs.all Char.isDigit then some (digitsValue cs) else none

/-- Splits off a sign; the flag says whether it is a minus. -/
def takeSign : List Char → Bool × List Char
  | '-' :: rest => (true, rest)
  | '+' :: rest => (false, rest)
  | cs => (false, cs)

def signed (negative : Bool) (n : Nat) : Int :=
  if negative then -(n : Int) else n

def readSigned? (cs : List Char) : Option Int :=
  let (negative, digits) := takeSign cs
  (readDigits? digits).map (signed negative)

def readInteger? (text : String) : Option Int :=
  readSigned? text.toList

/-! ## Numbers with fractions -/

/-- The number `digits * 10 ^ scale`. -/
structure Numeral where
  digits : Nat
  scale : Int
deriving DecidableEq, Repr

/-- What stands after the digits: nothing, or a power of ten. -/
def readExponent? : List Char → Option Int
  | [] => some 0
  | c :: rest => if c = 'e' || c = 'E' then readSigned? rest else none

/-- A number without a sign. -/
def Numeral.read? (cs : List Char) : Option Numeral :=
  let whole := cs.takeWhile Char.isDigit
  let (fraction, rest) := match cs.dropWhile Char.isDigit with
    | '.' :: rest => (rest.takeWhile Char.isDigit, rest.dropWhile Char.isDigit)
    | rest => ([], rest)
  if whole.isEmpty && fraction.isEmpty then none
  else (readExponent? rest).map fun exponent =>
    ⟨digitsValue (whole ++ fraction), exponent - fraction.length⟩

/-- From this power of ten on a number is infinite, and at its inverse it is zero. -/
def scaleLimit : Int := 400

/-- The number of double precision nearest to a numeral.  Powers of ten far outside the range
    are told by the size of the numeral alone. -/
def Numeral.toBinary64 (negative : Bool) (numeral : Numeral) : Binary64 :=
  let size := ((Nat.toDigits 10 numeral.digits).length : Int) + numeral.scale
  if numeral.digits = 0 || size < -scaleLimit then .zero negative
  else if size > scaleLimit then .infinite negative
  else .ofRatio negative (numeral.digits * Nat.pow 10 numeral.scale.toNat)
    (Nat.pow 10 (-numeral.scale).toNat)

/-- The number of double precision that a text writes. -/
def readBinary64? (text : String) : Option Binary64 :=
  let (negative, cs) := takeSign text.toList
  let word := String.ofList (cs.map Char.toLower)
  if word = "nan" then some .nan
  else if word = "inf" || word = "infinity" then some (.infinite negative)
  else (Numeral.read? cs).map (·.toBinary64 negative)

end FieldDelta.Decimal
