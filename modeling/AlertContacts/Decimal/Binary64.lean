/-!
# Binary floating point numbers

A number of the IEEE 754 format with 64 bits, kept as its bit pattern: one bit for the sign, eleven
for the exponent, 52 for the fraction. A finite number is `significand * 2 ^ scale`.
`Binary64.nearest?` rounds a quotient of natural numbers to the closest number of the format, and to
the one with the even significand when two are equally close. Products and quotients of numbers are
rounded in the same way.
-/

namespace AlertContacts

structure Binary64 where
  bits : UInt64
  deriving DecidableEq, Repr, Inhabited

namespace Binary64

def isNegative (number : Binary64) : Bool :=
  Nat.pow 2 63 ≤ number.bits.toNat

def exponentBits (number : Binary64) : Nat :=
  number.bits.toNat / Nat.pow 2 52 % Nat.pow 2 11

def fractionBits (number : Binary64) : Nat :=
  number.bits.toNat % Nat.pow 2 52

/-- The whole number that is scaled by a power of two; small exponents have no implicit bit. -/
def significand (number : Binary64) : Nat :=
  if number.exponentBits = 0 then number.fractionBits else Nat.pow 2 52 + number.fractionBits

def scale (number : Binary64) : Int :=
  max number.exponentBits 1 - 1075

/-- The whole number closest to a quotient; a half goes to the even neighbour. -/
def roundToEven (numerator denominator : Nat) : Nat :=
  let whole := numerator / denominator
  let rest := numerator % denominator
  if denominator < 2 * rest || (2 * rest = denominator && whole % 2 = 1) then whole + 1 else whole

def dividedByPower (numerator denominator : Nat) (exponent : Int) : Nat × Nat :=
  (numerator * Nat.pow 2 (-exponent).toNat, denominator * Nat.pow 2 exponent.toNat)

/--
The number closest to a quotient with the given sign; `none` when the quotient is beyond the largest
finite number. The bit pattern is the sum of the shifted exponent and the rounded significand, so a
significand that rounds up to the next power of two carries into the exponent. Zero counts as far
below the least exponent.
-/
def nearest? (negative : Bool) (numerator denominator : Nat) : Option Binary64 :=
  let magnitude : Int := if numerator = 0 then -2000 else numerator.log2 - denominator.log2
  let lower : Int := max (magnitude - 53) (-1074)
  let fits := dividedByPower numerator denominator lower
  let exponent := if Nat.pow 2 53 ≤ fits.1 / fits.2 then lower + 1 else lower
  let scaled := dividedByPower numerator denominator exponent
  let pattern := (exponent + 1074).toNat * Nat.pow 2 52 + roundToEven scaled.1 scaled.2
  if 2047 * Nat.pow 2 52 ≤ pattern then none
  else some ⟨UInt64.ofNat (if negative then Nat.pow 2 63 + pattern else pattern)⟩

def magnitude (number : Binary64) : Nat × Nat :=
  dividedByPower number.significand 1 (-number.scale)

def times? (left right : Binary64) : Option Binary64 :=
  let (leftTop, leftBottom) := left.magnitude
  let (rightTop, rightBottom) := right.magnitude
  nearest? (left.isNegative != right.isNegative) (leftTop * rightTop) (leftBottom * rightBottom)

/--
The number closest to the quotient of two finite numbers, unless it is too large or the divisor is
zero.
-/
def over? (left right : Binary64) : Option Binary64 :=
  let (leftTop, leftBottom) := left.magnitude
  let (rightTop, rightBottom) := right.magnitude
  if rightTop = 0 then none
  else
    nearest? (left.isNegative != right.isNegative) (leftTop * rightBottom) (leftBottom * rightTop)

end Binary64

end AlertContacts
