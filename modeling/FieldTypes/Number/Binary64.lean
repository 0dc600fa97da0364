namespace FieldTypes

/-! Numbers of the 64-bit binary format.  A finite one is a whole multiple of
2 ^ -1074: a significand below 2 ^ 53, shifted to the left.  The shift is zero or
the significand is at least 2 ^ 52, so that each value has one form for each
sign. -/

inductive Binary64 where
  | finite (negative : Bool) (significand shift : Nat)
  | infinite (negative : Bool)
  | notANumber
deriving DecidableEq, Repr

namespace Binary64

/-! Powers of two and of ten. -/

def twoTo (exponent : Nat) : Nat :=
  Nat.pow 2 exponent

def tenTo (exponent : Nat) : Nat :=
  Nat.pow 10 exponent

/-- How many bits a significand has. -/
def precision : Nat := 53

/-- Finite numbers are multiples of two to the power of minus this. -/
def unitPlace : Nat := 1074

def maximalShift : Nat := 2045

/-- The nearest whole number to a quotient.  Halves go to the even neighbour. -/
def roundHalfEven (numerator denominator : Nat) : Nat :=
  let quotient := numerator / denominator
  let remainder := numerator % denominator
  if 2 * remainder < denominator || (2 * remainder == denominator && quotient % 2 == 0) then
    quotient
  else quotient + 1

def digitCount (number : Nat) : Nat :=
  (Nat.toDigits 10 number).length

/-- A significand that was rounded up to one bit more is halved. -/
def ofRounded (negative : Bool) (significand shift : Nat) : Binary64 :=
  if significand = twoTo precision then ofBounded (significand / 2) (shift + 1)
  else ofBounded significand shift
where
  ofBounded (significand shift : Nat) : Binary64 :=
    if maximalShift < shift then .infinite negative else .finite negative significand shift

/-- The number nearest to a quotient of whole numbers, counted in units. -/
def ofQuotient (negative : Bool) (numerator denominator : Nat) : Binary64 :=
  let shift := (numerator / denominator).log2 + 1 - precision
  ofRounded negative (roundHalfEven numerator (denominator * twoTo shift)) shift

/-- The number nearest to `digits` times ten to the power of `exponent`.  Far
outside the range of the format the answer does not need the digits. -/
def ofDecimal (negative : Bool) (digits : Nat) (exponent : Int) : Binary64 :=
  let magnitude := exponent + digitCount digits
  if digits = 0 || magnitude < -400 then .finite negative 0 0
  else if 400 < magnitude then .infinite negative
  else
    ofQuotient negative (digits * tenTo exponent.toNat * twoTo unitPlace)
      (tenTo (-exponent).toNat)

end Binary64

end FieldTypes
