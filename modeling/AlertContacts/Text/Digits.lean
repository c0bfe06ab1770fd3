/-!
# Digits

Runs of decimal digits and the numbers they write.
-/

namespace AlertContacts.Text

def digitValue (digit : Char) : Nat :=
  digit.toNat - 48

def number (digits : List Char) : Nat :=
  digits.foldl (fun number digit => 10 * number + digitValue digit) 0

/-- A text split in front of the digits at its end. -/
def splitAtEnd (text : List Char) : List Char × List Char :=
  let digits := (text.reverse.takeWhile Char.isDigit).reverse
  (text.take (text.length - digits.length), digits)

end AlertContacts.Text
