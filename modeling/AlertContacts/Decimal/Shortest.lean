import AlertContacts.Decimal.Basic
import AlertContacts.Decimal.Binary64

/-!
# Shortest decimal text

A floating point number is written with the fewest digits that read back to it. `shortest` looks for
them on grids of powers of ten, from coarse to fine: on each grid only the two neighbours of the
number can be closest to it, and the first grid with a neighbour in the interval of the reals that
round to the number gives the digits. All comparisons are between natural numbers.

`Layout` records how digits become text: where positional writing ends, what marks a whole number,
and how an exponent is signed.
-/

namespace AlertContacts

namespace Binary64

/--
The reals that round to a number, in quarters of its last binary place. The lower half is narrower
above a power of two, and the ends belong to the interval when the significand is even.
-/
structure Interval where
  low : Nat
  middle : Nat
  high : Nat
  closed : Bool

def interval (number : Binary64) : Interval where
  low := 4 * number.significand -
    if number.fractionBits = 0 && 1 < number.exponentBits then 1 else 2
  middle := 4 * number.significand
  high := 4 * number.significand + 2
  closed := number.significand % 2 = 0

def Interval.contains (range : Interval) (unit point : Nat) : Bool :=
  if range.closed then range.low * unit ≤ point && point ≤ range.high * unit
  else range.low * unit < point && point < range.high * unit

/--
The closest point of the grid of multiples of `10 ^ place` that lies in the interval. With
`unit / step` for a quarter of the last binary place over the grid's step, the neighbours of the
number are the whole quotient and its successor.
-/
def Interval.onGrid? (range : Interval) (scale place : Int) : Option Nat :=
  let unit := Nat.pow 2 (scale - 2).toNat * Nat.pow 10 (-place).toNat
  let step := Nat.pow 2 (2 - scale).toNat * Nat.pow 10 place.toNat
  let below := range.middle * unit / step
  let rest := range.middle * unit % step
  let above := below + 1
  let lowFits := range.contains unit (below * step)
  let highFits := range.contains unit (above * step)
  if lowFits && highFits then
    some (if 2 * rest < step || (2 * rest = step && below % 2 = 0) then below else above)
  else if lowFits then some below
  else if highFits then some above
  else none

def Interval.search (range : Interval) (scale : Int) : Nat → Int → Decimal
  | 0, place => ⟨0, place⟩
  | grids + 1, place =>
    match range.onGrid? scale place with
    | some digits => ⟨digits, place⟩
    | none => range.search scale grids (place - 1)

/-- The decimal of fewest digits that rounds to a finite number, leaving its sign aside. -/
def shortest (number : Binary64) : Decimal :=
  if number.significand = 0 then ⟨0, 0⟩
  else
    let top : Int := number.significand.log2 + number.scale + 1
    number.interval.search number.scale 20 (Int.fdiv (top * 30103) 100000 + 1)

end Binary64

structure Layout where
  positionalFrom : Int
  positionalTo : Int
  wholeMark : String
  exponentMark : String
  exponentPlus : String

def Layout.text (layout : Layout) (decimal : Decimal) : String :=
  let digits := Nat.toDigits 10 decimal.digits
  let leading : Int := decimal.exponent + digits.length - 1
  if layout.positionalFrom ≤ leading && leading ≤ layout.positionalTo then
    if 0 ≤ decimal.exponent then
      String.ofList (digits ++ List.replicate decimal.exponent.toNat '0') ++ layout.wholeMark
    else if 0 ≤ leading then
      String.ofList (digits.take (leading.toNat + 1) ++ '.' :: digits.drop (leading.toNat + 1))
    else
      String.ofList ('0' :: '.' :: (List.replicate (-leading - 1).toNat '0' ++ digits))
  else
    let fraction := if digits.length = 1 then [] else '.' :: digits.drop 1
    String.ofList (digits.take 1 ++ fraction) ++ layout.exponentMark ++
      (if leading < 0 then "-" else layout.exponentPlus) ++ toString leading.natAbs

end AlertContacts
