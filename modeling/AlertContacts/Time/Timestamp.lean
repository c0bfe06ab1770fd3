import AlertContacts.Time.Date

/-!
# Timestamps

An instant in universal time, down to the nanosecond. The second 60 is a leap second, which any
minute may have. `Timestamp.ofLocal?` moves a local time with an offset in minutes to universal
time, which changes the date by at most one day, and `Timestamp.text` writes the instant with a
date, a `T`, the time of day, the fraction in the fewest groups of three digits, and a mark for the
zone.
-/

namespace AlertContacts

structure Clock where
  hour : Fin 24
  minute : Fin 60
  /-- The second; 60 is a leap second. -/
  second : Fin 61
  nano : Fin 1000000000
  deriving DecidableEq, Repr

structure Timestamp where
  date : Date
  clock : Clock
  deriving DecidableEq, Repr

namespace Timestamp

def minuteOfDay (clock : Clock) : Nat :=
  60 * clock.hour + clock.minute

def withMinuteOfDay (clock : Clock) (minute : Nat) : Clock :=
  { clock with
    hour := ⟨minute / 60 % 24, by omega⟩
    minute := ⟨minute % 60, by omega⟩ }

/--
The instant of a local time that is `offset` minutes ahead of universal time, for offsets of less
than a day; `none` if its day is out of range.
-/
def ofLocal? (date : Date) (clock : Clock) (offset : Int) : Option Timestamp :=
  let minute := minuteOfDay clock - offset
  if minute < 0 then
    date.previous?.map fun day => ⟨day, withMinuteOfDay clock (minute + 1440).toNat⟩
  else if 1440 ≤ minute then
    date.next?.map fun day => ⟨day, withMinuteOfDay clock (minute - 1440).toNat⟩
  else some ⟨date, withMinuteOfDay clock minute.toNat⟩

def padded (width number : Nat) : List Char :=
  let digits := Nat.toDigits 10 number
  List.replicate (width - digits.length) '0' ++ digits

/-- A year: four digits, and a sign in front for years outside 0 to 9999. -/
def yearText (year : Int) : List Char :=
  if year < 0 then '-' :: padded 4 year.natAbs
  else if 9999 < year then '+' :: padded 4 year.natAbs
  else padded 4 year.natAbs

/-- A fraction of a second: nothing if zero, else the least of 3, 6 or 9 digits that is exact. -/
def fractionText (nano : Nat) : List Char :=
  if nano = 0 then []
  else if nano % 1000000 = 0 then '.' :: padded 3 (nano / 1000000)
  else if nano % 1000 = 0 then '.' :: padded 6 (nano / 1000)
  else '.' :: padded 9 nano

def chars (instant : Timestamp) : List Char :=
  yearText instant.date.year ++ '-' :: padded 2 instant.date.month ++
    '-' :: padded 2 instant.date.day ++ 'T' :: padded 2 instant.clock.hour ++
    ':' :: padded 2 instant.clock.minute ++ ':' :: padded 2 instant.clock.second ++
    fractionText instant.clock.nano

def text (instant : Timestamp) (zone : String) : String :=
  String.ofList (instant.chars ++ zone.toList)

def zuluText (instant : Timestamp) : String :=
  instant.text "Z"

def offsetText (instant : Timestamp) : String :=
  instant.text "+00:00"

@[simp]
theorem ofLocal?_zero (date : Date) (clock : Clock) :
    ofLocal? date clock 0 = some ⟨date, clock⟩ := by
  have bound : minuteOfDay clock < 1440 := by
    have := clock.hour.isLt
    have := clock.minute.isLt
    simp only [minuteOfDay]
    omega
  have same : withMinuteOfDay clock (minuteOfDay clock) = clock := by
    obtain ⟨hour, minute, second, nano⟩ := clock
    have := hour.isLt
    have := minute.isLt
    simp only [withMinuteOfDay, minuteOfDay, Clock.mk.injEq, Fin.ext_iff, and_true]
    omega
  simp only [ofLocal?, Int.sub_zero, Int.toNat_natCast, same]
  split
  · omega
  · split
    · omega
    · rfl

end Timestamp

end AlertContacts
