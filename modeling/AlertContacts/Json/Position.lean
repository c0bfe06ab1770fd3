import AlertContacts.Text.Digits

/-!
# Positions

A place in a document, by line and column. The wording of an error may end in the position of the
error; `Position.split?` finds it there.
-/

namespace AlertContacts.Json

structure Position where
  /-- The line, from 1. -/
  line : UInt64
  column : UInt64
  deriving DecidableEq, Repr

namespace Position

def lineWords : String := " at line "

def columnWords : String := " column "

def text (position : Position) : String :=
  lineWords ++ toString position.line.toNat ++ columnWords ++ toString position.column.toNat

/-- The number of 64 bits at the end of a text, and the text before the words in front of it. -/
def numberBehind? (words : String) (text : List Char) : Option (List Char × UInt64) :=
  let (front, digits) := Text.splitAtEnd text
  let number := Text.number digits
  if !digits.isEmpty && number < Nat.pow 2 64 && words.toList.isSuffixOf front then
    some (front.take (front.length - words.length), UInt64.ofNat number)
  else none

def split? (text : List Char) : Option (List Char × Position) := do
  let (front, column) ← numberBehind? columnWords text
  let (front, line) ← numberBehind? lineWords front
  return (front, ⟨line, column⟩)

end Position

end AlertContacts.Json
