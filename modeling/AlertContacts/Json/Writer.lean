import AlertContacts.Json.Value

/-!
# Writing documents

`Value.write` writes a value on one line without spaces. Quotes, backslashes and control characters
of a string are escaped, and every other character is written as it is.
-/

namespace AlertContacts.Json.Value

def escapedChar (char : Char) : String :=
  match char with
  | '"' => "\\\""
  | '\\' => "\\\\"
  | '\n' => "\\n"
  | '\r' => "\\r"
  | '\t' => "\\t"
  | other =>
    if other.toNat < 0x20 then
      "\\u00" ++ String.ofList [Nat.digitChar (other.toNat / 16), Nat.digitChar (other.toNat % 16)]
    else other.toString

def writeString (text : String) : String :=
  "\"" ++ String.join (text.toList.map escapedChar) ++ "\""

mutual

def write : Value → String
  | .null => "null"
  | .boolean value => if value then "true" else "false"
  | .number value => value.text
  | .string text => writeString text
  | .array items => "[" ++ ",".intercalate (writeItems items) ++ "]"
  | .object entries => "\x7b" ++ ",".intercalate (writeEntries entries) ++ "\x7d"

def writeItems : List Value → List String
  | [] => []
  | item :: rest => write item :: writeItems rest

def writeEntries : List (String × Value) → List String
  | [] => []
  | (key, value) :: rest => (writeString key ++ ":" ++ write value) :: writeEntries rest

end

end AlertContacts.Json.Value
