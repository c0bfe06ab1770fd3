import AlertContacts.Text.Digits

/-!
# Decimals

A decimal is a whole number of digits, scaled by a power of ten.
-/

namespace AlertContacts

/-- The decimal number `digits * 10 ^ exponent`. -/
structure Decimal where
  digits : Nat
  exponent : Int
  deriving DecidableEq, Repr

namespace Decimal

/--
A word of 64 bits with digits written behind its own as long as it can hold them, and the number of
digits left over from the first that does not fit.
-/
def fillWord (word : Nat) : List Char → Nat × Nat
  | [] => (word, 0)
  | digit :: rest =>
    let longer := 10 * word + Text.digitValue digit
    if longer < Nat.pow 2 64 then fillWord longer rest else (word, rest.length + 1)

/--
The decimal of a literal whose digits are cut to a word. A digit left over before the point still
counts as a place; a digit left over behind the point does not count at all.
-/
def ofDigits (whole fraction : List Char) (exponent : Int) : Decimal :=
  let (word, dropped) := fillWord 0 whole
  let (word, ignored) := fillWord word fraction
  ⟨word, exponent + dropped - (fraction.length - ignored : Nat)⟩

end Decimal

end AlertContacts
