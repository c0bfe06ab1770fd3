import AlertContacts.Decimal.Basic
import AlertContacts.Decimal.Binary64

/-!
# Scaling by powers of ten

A decimal becomes a floating point number in rounded steps: its digits are rounded first, and the
product with the power of ten, or the quotient by it, is rounded again. The power is itself a
rounded number, and one step reaches no further than the greatest power of ten that is finite. So
the result is close to the decimal, but not always the closest number, and digits that differ in
the last place may give the same number.
-/

namespace AlertContacts

namespace Binary64

def greatestTen : Nat := 308

/-- A power of ten, rounded; beyond the greatest finite one there is none. -/
def ten? (places : Nat) : Option Binary64 :=
  if places ≤ greatestTen then nearest? false (Nat.pow 10 places) 1 else none

def timesTens? (number : Binary64) (places : Nat) : Option Binary64 :=
  if number.significand = 0 then some number
  else do number.times? (← ten? places)

/--
A number moved down by decimal places. More places than one power of ten has are taken off power by
power, until nothing is left of the number.
-/
def overTens? (number : Binary64) (places : Nat) : Option Binary64 :=
  if number.significand = 0 then some number
  else if greatestTen < places then do
    let rest ← number.over? (← ten? greatestTen)
    rest.overTens? (places - greatestTen)
  else do number.over? (← ten? places)
termination_by places
decreasing_by simp_all [greatestTen]; omega

end Binary64

def Decimal.scaled? (decimal : Decimal) (isNegative : Bool) : Option Binary64 := do
  let number ← Binary64.nearest? isNegative decimal.digits 1
  if decimal.exponent < 0 then number.overTens? (-decimal.exponent).toNat
  else number.timesTens? decimal.exponent.toNat

end AlertContacts
