/-!
# Dates

Days of the Gregorian calendar, extended to all years from -262143 to 262142. A date carries the
proof that its day exists, so `next?` and `previous?` fail at the ends of the range only.
-/

namespace AlertContacts

def isLeapYear (year : Int) : Bool :=
  year % 4 = 0 && (year % 100 ≠ 0 || year % 400 = 0)

def daysInMonth (year : Int) (month : Nat) : Nat :=
  if month = 2 then (if isLeapYear year then 29 else 28)
  else if month = 4 || month = 6 || month = 9 || month = 11 then 30
  else 31

/-- A day that exists, in a year of the supported range. -/
structure Date where
  /-- The year; the year before 1 is 0. -/
  year : Int
  month : Nat
  day : Nat
  yearInRange : -262143 ≤ year ∧ year ≤ 262142
  monthInRange : 1 ≤ month ∧ month ≤ 12
  dayInRange : 1 ≤ day ∧ day ≤ daysInMonth year month
  deriving DecidableEq, Repr

namespace Date

def of? (year : Int) (month day : Nat) : Option Date :=
  if valid : (-262143 ≤ year ∧ year ≤ 262142) ∧ (1 ≤ month ∧ month ≤ 12) ∧
      (1 ≤ day ∧ day ≤ daysInMonth year month) then
    some ⟨year, month, day, valid.1, valid.2.1, valid.2.2⟩
  else none

def next? (date : Date) : Option Date :=
  if date.day < daysInMonth date.year date.month then of? date.year date.month (date.day + 1)
  else if date.month < 12 then of? date.year (date.month + 1) 1
  else of? (date.year + 1) 1 1

def previous? (date : Date) : Option Date :=
  if 1 < date.day then of? date.year date.month (date.day - 1)
  else if 1 < date.month then
    of? date.year (date.month - 1) (daysInMonth date.year (date.month - 1))
  else of? (date.year - 1) 12 31

@[simp]
theorem of?_parts (date : Date) : of? date.year date.month date.day = some date := by
  simp [of?, date.yearInRange, date.monthInRange, date.dayInRange]

end Date

end AlertContacts
