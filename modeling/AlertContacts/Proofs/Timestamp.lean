import AlertContacts.Time.Reader
import Mathlib.Algebra.Group.Nat.Defs

/-!
# Timestamps that are read back

The text of an instant is in the grammar that timestamps are read by, and it is read back as that instant
(`Timestamp.parse_text`), with either mark for universal time. That holds of all instants: of years before 0
and behind 9999, whose digits are set off by a sign alone, of leap seconds, and of fractions of any length.

The reader is followed part by part. Each lemma says what a part of the reader takes from the front of a text
that was written for it, and that it leaves what stands behind. Most parts are written with a fixed width; a
year and a fraction end where no digit follows.
-/

namespace AlertContacts

theorem Text.isBlank_of_isDigit {char : Char} (digit : char.isDigit = true) : isBlank char = false := by
  have bounds : 48 ≤ char.toNat ∧ char.toNat ≤ 57 := Char.isDigit_iff_toNat.1 digit
  simp [isBlank, blankRanges]
  omega

namespace Timestamp

/-! ### Padded numbers -/

section padded

variable {width number : Nat}

theorem isDigit_of_mem_padded : ∀ char ∈ padded width number, char.isDigit = true := by
  intro char member
  rcases List.mem_append.1 member with zero | digit
  · rw [List.eq_of_mem_replicate zero]
    rfl
  · exact Nat.isDigit_of_mem_toDigits (by omega) (by omega) digit

theorem padded_ne_nil : padded width number ≠ [] := by
  simp [padded, Nat.toDigits_ne_nil]

theorem padded_eq_cons :
    ∃ first others, padded width number = first :: others ∧ first.isDigit = true := by
  rcases written : padded width number with _ | ⟨first, others⟩
  · exact absurd written padded_ne_nil
  · refine ⟨first, others, rfl, ?_⟩
    apply isDigit_of_mem_padded
    rw [written]
    exact List.mem_cons_self ..

/-- A number that fits has the width that it is padded to. -/
theorem length_padded (positive : 0 < width) (bounded : number < 10 ^ width) :
    (padded width number).length = width := by
  have fits : (Nat.toDigits 10 number).length ≤ width :=
    (Nat.length_toDigits_le_iff (by omega) positive).2 bounded
  simp only [padded, List.length_append, List.length_replicate]
  omega

/-- The digits of a padded number are read as the number. -/
theorem number_padded : Text.number (padded width number) = number := by
  change Nat.ofDigitChars 10 (padded width number) 0 = number
  rw [padded, Nat.ofDigitChars_append, Nat.ofDigitChars_replicate_zero, Nat.mul_zero,
    Nat.ofDigitChars_ten_toDigits]

end padded

namespace Scan

variable {α β : Type} {rest : List Char}

/-! ### Steps of the reader -/

theorem bind_of_ok {first : Scan α} {next : α → Scan β} {text : List Char} {result : α}
    (reads : first text = .ok (result, rest)) : (first >>= next) text = next result rest := by
  change (first text >>= fun read => next read.1 read.2) = _
  rw [reads]
  rfl

/-- A text does not begin with a character of a kind. -/
def StartsNot (kind : Char → Bool) (text : List Char) : Prop :=
  ∀ char ∈ text.head?, kind char = false

theorem startsNot_cons {kind : Char → Bool} {first : Char} (other : kind first = false) :
    StartsNot kind (first :: rest) := by
  rintro char ⟨rfl⟩
  exact other

theorem takeWhile_of_startsNot {kind : Char → Bool} (starts : StartsNot kind rest) :
    rest.takeWhile kind = [] := by
  cases rest with
  | nil => rfl
  | cons first rest =>
      have other : kind first = false := starts first rfl
      simp [other]

theorem dropWhile_of_startsNot {kind : Char → Bool} (starts : StartsNot kind rest) :
    rest.dropWhile kind = rest := by
  cases rest with
  | nil => rfl
  | cons first rest =>
      have other : kind first = false := starts first rfl
      simp [other]

theorem skipBlanks_of_startsNot (starts : StartsNot Text.isBlank rest) :
    skipBlanks rest = .ok ((), rest) := by
  change Except.ok ((), rest.dropWhile Text.isBlank) = _
  rw [dropWhile_of_startsNot starts]

theorem mark_cons (char : Char) : mark char (char :: rest) = .ok ((), rest) := by
  simp [mark]

theorem StartsNot.take {kind : Char → Bool} (starts : StartsNot kind rest) (count : Nat) :
    StartsNot kind (rest.take count) := by
  intro char member
  cases count with
  | zero => simp at member
  | succ count =>
      apply starts
      cases rest with
      | nil => simp at member
      | cons first rest => simpa using member

/-- Digits fill the width that is read, or no digit follows them. -/
theorem takeWhile_isDigit_append {width : Option Nat} {digits : List Char}
    (areDigits : ∀ char ∈ digits, char.isDigit = true)
    (fits : ∀ bound ∈ width, digits.length ≤ bound)
    (ends : width = some digits.length ∨ StartsNot Char.isDigit rest) :
    (width.elim (digits ++ rest) (digits ++ rest).take).takeWhile Char.isDigit = digits := by
  cases width with
  | none =>
      rcases ends with full | ends
      · cases full
      · simp only [Option.elim_none, List.takeWhile_append_of_pos areDigits, takeWhile_of_startsNot ends,
          List.append_nil]
  | some bound =>
      have within : digits.length ≤ bound := fits bound rfl
      have others : (rest.take (bound - digits.length)).takeWhile Char.isDigit = [] := by
        rcases ends with full | ends
        · cases full
          simp
        · exact takeWhile_of_startsNot (ends.take _)
      simp only [Option.elim_some, List.take_append, List.take_of_length_le within,
        List.takeWhile_append_of_pos areDigits, others, List.append_nil]

/-- Digits are read as a number up to a full width, or to what is no digit. -/
theorem number_append {width : Option Nat} {digits : List Char} (nonempty : digits ≠ [])
    (areDigits : ∀ char ∈ digits, char.isDigit = true)
    (fits : ∀ bound ∈ width, digits.length ≤ bound)
    (ends : width = some digits.length ∨ StartsNot Char.isDigit rest) :
    number width (digits ++ rest) = .ok (Text.number digits, rest) := by
  have taken := takeWhile_isDigit_append areDigits fits ends
  cases digits with
  | nil => exact absurd rfl nonempty
  | cons first digits =>
      have digit : first.isDigit = true := areDigits first (List.mem_cons_self ..)
      rw [List.cons_append] at taken ⊢
      cases width with
      | none =>
          simp only [Option.elim_none] at taken
          simp only [number, digit, if_true, taken, List.length_cons, List.drop_succ_cons,
            List.drop_left]
      | some bound =>
          simp only [Option.elim_some] at taken
          simp only [number, digit, if_true, taken, List.length_cons, List.drop_succ_cons,
            List.drop_left]

/-- A padded number is read up to a full width, or in front of what is no digit. -/
theorem number_padded {width : Option Nat} {least count : Nat}
    (fits : ∀ bound ∈ width, (padded least count).length ≤ bound)
    (ends : width = some (padded least count).length ∨ StartsNot Char.isDigit rest) :
    number width (padded least count ++ rest) = .ok (count, rest) := by
  rw [number_append padded_ne_nil isDigit_of_mem_padded fits ends, Timestamp.number_padded]

/-- A number that fills its width is read in front of anything. -/
theorem number_full {width count : Nat} (positive : 0 < width) (bounded : count < 10 ^ width) :
    number (some width) (padded width count ++ rest) = .ok (count, rest) := by
  have full : (padded width count).length = width := length_padded positive bounded
  exact number_padded (by simp [full]) (.inl (by rw [full]))

/-! ### Parts of a date -/

theorem startsNot_isBlank_padded {width count : Nat} :
    StartsNot Text.isBlank (padded width count ++ rest) := by
  obtain ⟨first, others, written, digit⟩ := padded_eq_cons
  rw [written]
  exact startsNot_cons (Text.isBlank_of_isDigit digit)

/-- A field of two digits is read and found within its bounds. -/
theorem field_padded {low high count : Nat} (within : low ≤ count ∧ count ≤ high) (small : high < 100) :
    field low high (padded 2 count ++ rest) = .ok (count, rest) := by
  have read : number (some 2) (padded 2 count ++ rest) = .ok (count, rest) :=
    number_full (by omega) (by omega)
  unfold field
  rw [bind_of_ok (skipBlanks_of_startsNot startsNot_isBlank_padded), bind_of_ok read, if_pos within]
  rfl

/-- A mark with blanks allowed in front of it. -/
theorem skipBlanks_mark {char : Char} (visible : Text.isBlank char = false) (next : Scan α) :
    (skipBlanks >>= fun _ => mark char >>= fun _ => next) (char :: rest) = next rest := by
  rw [bind_of_ok (skipBlanks_of_startsNot (startsNot_cons visible)), bind_of_ok (mark_cons char)]

/-- A digit is neither sign. -/
theorem signedYear_of_isDigit {first : Char} (digit : first.isDigit = true) :
    signedYear (first :: rest) =
      (number (some 4) (first :: rest)).map fun read => ((read.1 : Int), read.2) := by
  have positive : first ≠ '+' := by
    rintro rfl
    cases digit
  have negative : first ≠ '-' := by
    rintro rfl
    cases digit
  unfold signedYear
  split <;> simp_all

theorem signedYear_yearText {year : Int} (ends : StartsNot Char.isDigit rest) :
    signedYear (yearText year ++ rest) = .ok (year, rest) := by
  have digits (count : Nat) : number none (padded 4 count ++ rest) = .ok (count, rest) :=
    number_padded (by simp) (.inr ends)
  unfold yearText
  split
  · simp only [List.cons_append, signedYear, digits, Except.map]
    congr 2
    omega
  · split
    · simp only [List.cons_append, signedYear, digits, Except.map]
      congr 2
      omega
    · have read : number (some 4) (padded 4 year.natAbs ++ rest) = .ok (year.natAbs, rest) :=
        number_full (by omega) (by omega)
      obtain ⟨first, others, written, digit⟩ := padded_eq_cons
      rw [written] at read ⊢
      rw [List.cons_append] at read ⊢
      simp only [signedYear_of_isDigit digit, read, Except.map]
      congr 2
      omega

theorem startsNot_isBlank_yearText {year : Int} : StartsNot Text.isBlank (yearText year ++ rest) := by
  unfold yearText
  split
  · exact startsNot_cons rfl
  · split
    · exact startsNot_cons rfl
    · exact startsNot_isBlank_padded

/-- A year in range is read in front of what is no digit. -/
theorem year_yearText {year : Int} (within : -2147483648 ≤ year ∧ year < 2147483648)
    (ends : StartsNot Char.isDigit rest) : Scan.year (yearText year ++ rest) = .ok (year, rest) := by
  have inRange : -Int.pow 2 31 ≤ year ∧ year < Int.pow 2 31 := within
  unfold Scan.year
  rw [bind_of_ok (skipBlanks_of_startsNot startsNot_isBlank_yearText),
    bind_of_ok (signedYear_yearText ends), if_pos inRange]
  rfl

/-- A date is read from what is written for it. -/
theorem date_written (day : Date) :
    Scan.date (yearText day.year ++ '-' :: (padded 2 day.month ++ '-' :: (padded 2 day.day ++ rest))) =
      .ok ((day.year, day.month, day.day), rest) := by
  have years := day.yearInRange
  have days : day.day ≤ 31 := by
    refine Nat.le_trans day.dayInRange.2 ?_
    unfold daysInMonth
    split
    · split <;> omega
    · split <;> omega
  unfold Scan.date
  rw [bind_of_ok (year_yearText (by omega) (startsNot_cons rfl)), skipBlanks_mark rfl,
    bind_of_ok (field_padded day.monthInRange (by omega)), skipBlanks_mark rfl,
    bind_of_ok (field_padded ⟨day.dayInRange.1, days⟩ (by omega))]
  rfl

/-! ### Parts of a time of day -/

/-- A fraction of at most nine digits, in front of what does not go on with it. -/
theorem fraction_padded {width count : Nat} (positive : 0 < width) (short : width ≤ 9)
    (bounded : count < 10 ^ width) (ends : StartsNot Char.isDigit rest) :
    fraction ('.' :: (padded width count ++ rest)) = .ok (count * 10 ^ (9 - width), rest) := by
  have full : (padded width count).length = width := length_padded positive bounded
  have fits : ∀ bound ∈ some 9, (padded width count).length ≤ bound := by
    rintro bound ⟨rfl⟩
    omega
  have taken : ((padded width count ++ rest).take 9).takeWhile Char.isDigit = padded width count :=
    takeWhile_isDigit_append isDigit_of_mem_padded fits (.inr ends)
  have read : number (some 9) (padded width count ++ rest) = .ok (count, rest) :=
    number_padded fits (.inr ends)
  have left : (modify (List.dropWhile Char.isDigit) : Scan Unit) rest = .ok ((), rest) := by
    change Except.ok ((), rest.dropWhile Char.isDigit) = _
    rw [dropWhile_of_startsNot ends]
  -- The digits are counted before they are taken, so the count is that of the whole fraction.
  change (number (some 9) >>= fun nano => modify (List.dropWhile Char.isDigit) >>= fun _ =>
    pure (nano * Nat.pow 10 (9 - (((padded width count ++ rest).take 9).takeWhile Char.isDigit).length)))
      (padded width count ++ rest) = _
  rw [bind_of_ok read, bind_of_ok left, taken, full]
  rfl

/-- A fraction of a second is read from what is written for it, and none where none is written. -/
theorem fraction_fractionText {nano : Nat} (bounded : nano < 1000000000)
    (ends : StartsNot Char.isDigit rest) (apart : StartsNot (· == '.') rest) :
    fraction (fractionText nano ++ rest) = .ok (nano, rest) := by
  have groups {width count : Nat} (positive : 0 < width) (short : width ≤ 9)
      (fits : count < 10 ^ width) (exactly : count * 10 ^ (9 - width) = nano) :
      fraction ('.' :: padded width count ++ rest) = .ok (nano, rest) := by
    rw [List.cons_append, fraction_padded positive short fits ends, exactly]
  unfold fractionText
  split
  · rename_i zero
    have current : (get : Scan (List Char)) rest = .ok (rest, rest) := rfl
    rw [List.nil_append, zero]
    unfold fraction
    rw [bind_of_ok current]
    split
    · cases apart '.' rfl
    · rfl
  · split
    · exact groups (by omega) (by omega) (by omega) (by omega)
    · split
      · exact groups (by omega) (by omega) (by omega) (by omega)
      · exact groups (by omega) (by omega) (by omega) (by omega)

/-- A time of day is read from what is written for it, with a leap second as well. -/
theorem clock_written (time : Clock) (ends : StartsNot Char.isDigit rest)
    (apart : StartsNot (· == '.') rest) :
    Scan.clock (padded 2 time.hour ++ ':' :: (padded 2 time.minute ++ ':' :: (padded 2 time.second ++
      (fractionText time.nano ++ rest)))) = .ok (time, rest) := by
  have hour := time.hour.isLt
  have minute := time.minute.isLt
  have second := time.second.isLt
  unfold Scan.clock
  rw [bind_of_ok (field_padded (by omega) (by omega)), skipBlanks_mark rfl,
    bind_of_ok (field_padded (by omega) (by omega)), skipBlanks_mark rfl,
    bind_of_ok (field_padded (by omega) (by omega)),
    bind_of_ok (fraction_fractionText time.nano.isLt ends apart)]
  simp only [Fin.ofNat_val_eq_self]
  rfl

end Scan

/-- Zones that stand for universal time and end a text. -/
structure Universal (zone : String) : Prop where
  offset : Scan.offset zone.toList = .ok (0, [])
  endsDigits : Scan.StartsNot Char.isDigit zone.toList
  endsSecond : Scan.StartsNot (· == '.') zone.toList

theorem universal_zulu : Universal "Z" :=
  ⟨rfl, Scan.startsNot_cons rfl, Scan.startsNot_cons rfl⟩

theorem universal_zeroOffset : Universal "+00:00" :=
  ⟨rfl, Scan.startsNot_cons rfl, Scan.startsNot_cons rfl⟩

/-- The text of every instant is read back as the instant. -/
theorem parse_text (instant : Timestamp) {zone : String} (universal : Universal zone) :
    parse (instant.text zone) = .ok instant := by
  have separator (rest : List Char) : Scan.separator ('T' :: rest) = .ok ((), rest) := rfl
  have moved : ofLocal? instant.date instant.clock 0 = some instant := ofLocal?_zero ..
  unfold parse text chars
  simp only [String.toList_ofList, List.append_assoc, List.cons_append, Scan.date_written, separator,
    Scan.clock_written _ universal.endsDigits universal.endsSecond, universal.offset, bind, Except.bind]
  simp [Text.trimStart, moved, pure, Except.pure]

end Timestamp

end AlertContacts
