/-!
# Quoted texts

Three ways to write a text between quotes.

* In a *quoted name* the double quote stands around the text, and a double quote inside it is
  written twice. `closedName?` reads such a text back and refuses a quote that stands alone.
* In a *literal* the single quote stands around the text, a backslash is written twice, and a
  single quote is written twice.
* In an *escaped* text, the form messages show texts in, the double quote stands around the text and
  a backslash precedes quotes, backslashes and the letters of the common control characters.
-/

namespace AlertContacts.Text

/-- A text in which every double quote is written twice. -/
def doubleQuotes : List Char → List Char
  | [] => []
  | char :: rest =>
    if char = '"' then '"' :: '"' :: doubleQuotes rest else char :: doubleQuotes rest

def quotedName (text : List Char) : List Char :=
  '"' :: (doubleQuotes text ++ ['"'])

/-- A text with a replacement for each two double quotes in a row, which are found from left to right. -/
def replacePairs (replacement : List Char) : List Char → List Char
  | [] => []
  | '"' :: '"' :: rest => replacement ++ replacePairs replacement rest
  | char :: rest => char :: replacePairs replacement rest

/--
The text of a quoted name, read from behind its opening quote. The closing quote has to be the last
character, and no quote may be left in front of it when all pairs of quotes are taken out.
-/
def closedName? (quoted : List Char) : Option (List Char) :=
  if quoted.getLast? = some '"' ∧ '"' ∉ replacePairs [] quoted.dropLast then
    some (replacePairs ['"'] quoted.dropLast)
  else none

def literalChar (char : Char) : List Char :=
  if char = '\\' then ['\\', '\\'] else if char = '\'' then ['\'', '\''] else [char]

def literal (text : List Char) : List Char :=
  '\'' :: (text.flatMap literalChar ++ ['\''])

def escapedChar (char : Char) : List Char :=
  match char with
  | '"' => ['\\', '"']
  | '\\' => ['\\', '\\']
  | '\n' => ['\\', 'n']
  | '\t' => ['\\', 't']
  | '\r' => ['\\', 'r']
  | '\x00' => ['\\', '0']
  | other => [other]

/-- A text as messages show it: between double quotes, with escapes. -/
def escaped (text : String) : String :=
  String.ofList ('"' :: (text.toList.flatMap escapedChar ++ ['"']))

def escapedList (texts : List String) : String :=
  "[" ++ ", ".intercalate (texts.map escaped) ++ "]"

end AlertContacts.Text
