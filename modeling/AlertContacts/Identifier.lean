import AlertContacts.Entries
import AlertContacts.Text.Blank
import AlertContacts.Text.Quoted

/-!
# Identifiers

A contact lives directly under the account, so one name identifies it. An identifier keeps the bare
name; whether the name needs quotes is decided where it is written into a statement.

`Identifier.sql` writes the name bare when the platform would read it back unchanged, and as a
quoted name otherwise. `Identifier.parse` reads either form: blanks at the ends do not count, a text
that begins with a double quote has to be one quoted name, and any other text is taken as it is.
-/

namespace AlertContacts

structure Identifier where
  name : String
  deriving DecidableEq, Repr, Inhabited

namespace Identifier

def isValid (identifier : Identifier) : Bool :=
  identifier.name ≠ ""

/-- Whether a bare name may begin with a character: an upper-case ASCII letter or `_`. -/
def startsBare (char : Char) : Bool :=
  char.isUpper || char = '_'

/-- Whether a character may follow in a bare name: digits and `$` are allowed here as well. -/
def continuesBare (char : Char) : Bool :=
  char.isUpper || char.isDigit || char = '_' || char = '$'

def isBare : List Char → Bool
  | [] => false
  | first :: rest => startsBare first && rest.all continuesBare

def sqlChars (name : List Char) : List Char :=
  if isBare name then name else Text.quotedName name

/-- The SQL form of an identifier, also its fully qualified name. -/
def sql (identifier : Identifier) : String :=
  String.ofList (sqlChars identifier.name.toList)

inductive ParseError where
  | empty
  | unterminatedQuote (text : String)
  deriving DecidableEq, Repr

def ParseError.message : ParseError → String
  | .empty => "identifier cannot be empty"
  | .unterminatedQuote text => "unterminated quoted identifier: " ++ text

/-- The identifier whose SQL form is given, with the blanks at its ends ignored. -/
def parse (input : String) : Except ParseError Identifier :=
  match Text.trim input.toList with
  | [] => .error .empty
  | '"' :: quoted =>
    match Text.closedName? quoted with
    | none => .error (.unterminatedQuote (String.ofList ('"' :: quoted)))
    | some [] => .error .empty
    | some name => .ok ⟨String.ofList name⟩
  | bare => .ok ⟨String.ofList bare⟩

def distinct (identifiers : List Identifier) : List Identifier :=
  (Entries.ofList (identifiers.map fun identifier => (identifier.name, identifier))).map Prod.snd

end Identifier

end AlertContacts
