import FieldTypes.Number.Binary64

namespace FieldTypes.Binary64

/-! The shortest decimal that reads back as a given number.  The reals that are
rounded to the number form an interval around it, and its ends belong to it when
the significand is even.  Among the decimals of one length only the two next to
the number can be the nearest in the interval. -/

/-- A number and its distances to the ends of its interval, all as multiples of a
quarter of a unit. -/
structure Neighbourhood where
  centre : Nat
  below : Nat
  above : Nat
  ends : Bool
deriving Repr

/-- The gap below a power of two is half as wide as the one above it. -/
def neighbourhood (significand shift : Nat) : Neighbourhood where
  centre := 4 * significand * twoTo shift
  below := if significand = twoTo (precision - 1) && 0 < shift then twoTo shift else 2 * twoTo shift
  above := 2 * twoTo shift
  ends := significand % 2 == 0

/-- A positive decimal: digits, and the power of ten that they are multiplied by. -/
structure Decimal where
  digits : Nat
  exponent : Int
deriving DecidableEq, Repr

def reaches (ends : Bool) (distance limit : Nat) : Bool :=
  distance < limit || (ends && distance == limit)

/-- The better one of the two decimals next to the centre, if one is in the
interval.  A tie goes to the greater. -/
def nearestWith? (around : Neighbourhood) (exponent : Int) : Option Decimal :=
  let scale := tenTo (-exponent).toNat
  let step := tenTo exponent.toNat * twoTo (unitPlace + 2)
  let centre := around.centre * scale
  let digits := centre / step
  let toLower := centre - digits * step
  let toUpper := (digits + 1) * step - centre
  let lower := reaches around.ends toLower (around.below * scale)
  let upper := reaches around.ends toUpper (around.above * scale)
  if upper && (!lower || toUpper ≤ toLower) then some ⟨digits + 1, exponent⟩
  else if lower then some ⟨digits, exponent⟩
  else none

/-- How many digits stand before the point; negative for leading zeros after it. -/
def magnitude (significand shift : Nat) : Int :=
  digitCount (significand * twoTo shift * tenTo 400 / twoTo unitPlace) - 400

/-- Seventeen digits are always enough. -/
def shortest (significand shift : Nat) : Decimal :=
  let around := neighbourhood significand shift
  let before := magnitude significand shift
  ((List.range 17).findSome? fun place : Nat =>
    nearestWith? around (before - 1 - (place : Int))).getD ⟨0, 0⟩

/-! A decimal is written without an exponent and with at least one digit on each
side of the point. -/

def zeros (count : Nat) : List Char :=
  List.replicate count '0'

def positional (decimal : Decimal) : String :=
  let digits := Nat.toDigits 10 decimal.digits ++ zeros decimal.exponent.toNat
  let places := (-decimal.exponent).toNat
  let padded := zeros (places + 1 - digits.length) ++ digits
  let whole := padded.take (padded.length - places)
  let fraction := ((padded.drop (padded.length - places)).reverse.dropWhile (· == '0')).reverse
  String.ofList (whole ++ '.' :: if fraction.isEmpty then zeros 1 else fraction)

def text : Binary64 → String
  | .notANumber => "NaN"
  | .infinite negative => signed negative "inf"
  | .finite negative significand shift =>
      signed negative
        (if significand = 0 then "0.0" else positional (shortest significand shift))
where
  signed (negative : Bool) (text : String) : String :=
    if negative then "-" ++ text else text

end FieldTypes.Binary64
