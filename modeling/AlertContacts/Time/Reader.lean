import AlertContacts.Text.Blank
import AlertContacts.Text.Digits
import AlertContacts.Time.Timestamp

/-!
# Reading timestamps

A timestamp is read from left to right: year, month, day, a separator, hour, minute, second, an
optional fraction, and the offset from universal time. Blanks may stand before each number and each
mark, and at the end. A number is checked as soon as it is read; whether the day exists, whether the
offset is less than a day and whether the instant is in range is checked once the whole text is
read.
-/

namespace AlertContacts.Timestamp

inductive ParseError where
  | tooShort
  | invalid
  | trailing
  | outOfRange
  | impossible
  deriving DecidableEq, Repr

def ParseError.message : ParseError → String
  | .tooShort => "premature end of input"
  | .invalid => "input contains invalid characters"
  | .trailing => "trailing input"
  | .outOfRange => "input is out of range"
  | .impossible => "no possible date and time matching input"

/-- A reader takes its part from the front of a text and leaves the rest. -/
abbrev Scan := StateT (List Char) (Except ParseError)

namespace Scan

def skipBlanks : Scan Unit :=
  modify Text.trimStart

/-- At least one digit, of which at most `width` are taken; without a width all of them. -/
def number (width : Option Nat) : Scan Nat := fun text =>
  match text with
  | [] => .error .tooShort
  | first :: _ =>
    if first.isDigit then
      let digits := (match width with | none => text | some width => text.take width).takeWhile
        Char.isDigit
      .ok (Text.number digits, text.drop digits.length)
    else .error .invalid

def mark (char : Char) : Scan Unit := fun text =>
  match text with
  | [] => .error .tooShort
  | first :: rest => if first = char then .ok ((), rest) else .error .invalid

def field (low high : Nat) : Scan Nat := do
  skipBlanks
  let number ← number (some 2)
  if low ≤ number ∧ number ≤ high then return number else throw .outOfRange

/-- A year without its range: one to four digits, or a sign and any number of digits. -/
def signedYear : Scan Int := fun text =>
  match text with
  | '+' :: rest => (number none rest).map fun read => (read.1, read.2)
  | '-' :: rest => (number none rest).map fun read => (-read.1, read.2)
  | unsigned => (number (some 4) unsigned).map fun read => (read.1, read.2)

def year : Scan Int := do
  skipBlanks
  let year ← signedYear
  if -Int.pow 2 31 ≤ year ∧ year < Int.pow 2 31 then return year else throw .outOfRange

def date : Scan (Int × Nat × Nat) := do
  let year ← year
  skipBlanks
  mark '-'
  let month ← field 1 12
  skipBlanks
  mark '-'
  let day ← field 1 31
  return (year, month, day)

/-- What stands between a date and a time of day: a `T` or one space. -/
def separator : Scan Unit := fun text =>
  match text with
  | [] => .error .tooShort
  | first :: rest =>
    if first = 'T' || first = 't' || first = ' ' then .ok ((), rest) else .error .invalid

/-- A fraction in nanoseconds: nine digits count, and the digits behind them are left out. -/
def fraction : Scan Nat := do
  match ← get with
  | '.' :: rest =>
    set rest
    let digits := (rest.take 9).takeWhile Char.isDigit
    let nano ← number (some 9)
    modify (List.dropWhile Char.isDigit)
    return nano * Nat.pow 10 (9 - digits.length)
  | _ => return 0

def clock : Scan Clock := do
  let hour ← field 0 23
  skipBlanks
  mark ':'
  let minute ← field 0 59
  skipBlanks
  mark ':'
  let second ← field 0 60
  let nano ← fraction
  return ⟨Fin.ofNat 24 hour, Fin.ofNat 60 minute, Fin.ofNat 61 second, Fin.ofNat 1000000000 nano⟩

/-- Two digits that make a number, the first of them less than `bound`. -/
def twoDigits (bound : Nat) : Scan Nat := fun text =>
  match text with
  | [] => .error .tooShort
  | [last] => if last.utf8Size < 2 then .error .tooShort else .error .invalid
  | first :: second :: rest =>
    if first.isDigit && second.isDigit then
      if Text.digitValue first < bound then .ok (Text.number [first, second], rest)
      else .error .outOfRange
    else .error .invalid

def hoursAndMinutes : Scan Nat := do
  let hours ← twoDigits 10
  modify (List.dropWhile fun char => char = ':' || Text.isBlank char)
  let minutes ← twoDigits 6
  return 60 * hours + minutes

def offset : Scan Int := do
  skipBlanks
  let text ← get
  if (text.take 3).map Char.toUpper = ['U', 'T', 'C'] then
    set (text.drop 3)
    return 0
  else
    match text with
    | [] => throw .tooShort
    | first :: rest =>
      set rest
      if first = 'Z' || first = 'z' then return 0
      else if first = '+' then return ← hoursAndMinutes
      else if first = '-' || first = '\u2212' then return -(← hoursAndMinutes : Nat)
      else throw .invalid

end Scan

def parse (text : String) : Except ParseError Timestamp := do
  let ((year, month, day), rest) ← Scan.date text.toList
  let (_, rest) ← Scan.separator rest
  let (clock, rest) ← Scan.clock rest
  let (offset, rest) ← Scan.offset rest
  if Text.trimStart rest ≠ [] then throw .trailing
  match Date.of? year month day with
  | none => throw .outOfRange
  | some date =>
    if 1440 ≤ offset.natAbs then throw .outOfRange
    match ofLocal? date clock offset with
    | none => throw .impossible
    | some instant => return instant

end AlertContacts.Timestamp
