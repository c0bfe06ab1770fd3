import AlertContacts.Decimal.Scaling
import AlertContacts.Decimal.Shortest

/-!
# Numbers

A number is a whole number of 64 bits, with or without a sign, or a floating point number. Which one
it is depends on how it is written: a literal with a point or an exponent is a floating point number
even when its value is whole, and so is a whole literal outside the 64-bit ranges.
-/

namespace AlertContacts.Json

structure Literal where
  isNegative : Bool
  whole : List Char
  fraction : Option (List Char)
  exponent : Option Int
  deriving DecidableEq, Repr

namespace Literal

def isWhole (literal : Literal) : Bool :=
  literal.fraction.isNone && literal.exponent.isNone

def float? (literal : Literal) : Option Binary64 :=
  (Decimal.ofDigits literal.whole (literal.fraction.getD []) (literal.exponent.getD 0)).scaled?
    literal.isNegative

end Literal

inductive Number where
  | natural (value : UInt64)
  /-- The negative whole number `-(below + 1)`. -/
  | negative (below : Fin (Nat.pow 2 63))
  | float (value : Binary64)
  deriving DecidableEq, Repr, Inhabited

namespace Number

def isInteger : Number → Bool
  | .natural _ | .negative _ => true
  | .float _ => false

/-- The whole number of a literal without point and exponent, if it has 64 bits. -/
def ofDigits? (isNegative : Bool) (digits : List Char) : Option Number :=
  let value := Text.number digits
  if isNegative then
    if inRange : 0 < value ∧ value ≤ Nat.pow 2 63 then some (.negative ⟨value - 1, by omega⟩) else none
  else if value < Nat.pow 2 64 then some (.natural (UInt64.ofNat value))
  else none

def ofLiteral? (literal : Literal) : Option Number :=
  let whole? :=
    if literal.isWhole then ofDigits? literal.isNegative literal.whole else none
  whole?.or (literal.float?.map .float)

/--
Floating point numbers are written positionally while the exponent of the leading digit is between
-5 and 15, whole ones end in `.0`, and an exponent carries its sign.
-/
def floatLayout : Layout where
  positionalFrom := -5
  positionalTo := 15
  wholeMark := ".0"
  exponentMark := "e"
  exponentPlus := "+"

def text : Number → String
  | .natural value => toString value.toNat
  | .negative below => "-" ++ toString (below.val + 1)
  | .float value => (if value.isNegative then "-" else "") ++ floatLayout.text value.shortest

end Number

end AlertContacts.Json
