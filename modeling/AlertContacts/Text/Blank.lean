/-!
# Blank characters

Names and times are read with the blanks around them ignored. A blank is a character with the
Unicode property `White_Space`; the table below lists the property's code points as ranges. Zero
width characters such as U+200B and U+FEFF, and the information separators U+001C to U+001F, do not
have the property and stay part of the text.
-/

namespace AlertContacts.Text

/-- The code points of the Unicode property `White_Space`, as inclusive ranges. -/
def blankRanges : List (Nat × Nat) :=
  [(0x0009, 0x000D), (0x0020, 0x0020), (0x0085, 0x0085), (0x00A0, 0x00A0), (0x1680, 0x1680),
   (0x2000, 0x200A), (0x2028, 0x2029), (0x202F, 0x202F), (0x205F, 0x205F), (0x3000, 0x3000)]

def isBlank (char : Char) : Bool :=
  blankRanges.any fun range => range.1 ≤ char.toNat && char.toNat ≤ range.2

def trimStart (text : List Char) : List Char :=
  text.dropWhile isBlank

def trim (text : List Char) : List Char :=
  (trimStart (trimStart text).reverse).reverse

theorem isBlank_doubleQuote : isBlank '"' = false := by decide

end AlertContacts.Text
