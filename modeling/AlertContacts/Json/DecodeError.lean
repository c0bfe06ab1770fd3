import AlertContacts.Json.Position
import AlertContacts.Json.Value
import AlertContacts.Text.Quoted
import AlertContacts.Time.Reader

/-!
# Decoding errors

Why a value does not decode as the type it is meant to have, and the wording that users see. An
error tells what was found and what was expected in its place.
-/

namespace AlertContacts.Json

inductive Found where
  | null
  | boolean (value : Bool)
  | number (value : Number)
  | string (value : String)
  | sequence
  | map
  | bareVariant
  deriving DecidableEq, Repr

def Value.found : Value → Found
  | .null => .null
  | .boolean value => .boolean value
  | .number value => .number value
  | .string value => .string value
  | .array _ => .sequence
  | .object _ => .map

def Found.text : Found → String
  | .null => "null"
  | .boolean value => "boolean `" ++ toString value ++ "`"
  | .number (.float value) => "floating point `" ++ (Number.float value).text ++ "`"
  | .number whole => "integer `" ++ whole.text ++ "`"
  | .string value => "string " ++ Text.escaped value
  | .sequence => "sequence"
  | .map => "map"
  | .bareVariant => "unit variant"

inductive Expected where
  | string
  | boolean
  | unsigned
  | sequence
  | map
  | timestamp
  | record (name : String)
  | recordItems (name : String) (size : Nat)
  | variant
  | nothing
  | variantData
  | oneEntry
  | fewerItems
  deriving DecidableEq, Repr

def Expected.text : Expected → String
  | .string => "a string"
  | .boolean => "a boolean"
  | .unsigned => "u64"
  | .sequence => "a sequence"
  | .map => "a map"
  | .timestamp => "an RFC 3339 formatted date and time string"
  | .record name => "struct " ++ name
  | .recordItems name 1 => "struct " ++ name ++ " with 1 element"
  | .recordItems name size => "struct " ++ name ++ " with " ++ toString size ++ " elements"
  | .variant => "string or map"
  | .nothing => "unit"
  | .variantData => "newtype variant"
  | .oneEntry => "map with a single key"
  | .fewerItems => "fewer elements in array"

inductive DecodeError where
  | invalidType (found : Found) (expected : Expected)
  | invalidValue (found : Found) (expected : Expected)
  | invalidLength (length : Nat) (expected : Expected)
  | missingField (field : String)
  | unknownField (field : String) (known : List String)
  | unknownVariant (variant : String) (known : List String)
  | timestamp (error : Timestamp.ParseError)
  /-- An error reported in words of its own, at a position if it has one. -/
  | reported (words : String) (position : Option Position)
  deriving DecidableEq, Repr

/-- The names that would have been allowed: two with `or`, more as a list. -/
def DecodeError.alternatives (known : List String) : String :=
  match known.map fun name => "`" ++ name ++ "`" with
  | [] => "there are no fields"
  | [only] => "expected " ++ only
  | [first, second] => "expected " ++ first ++ " or " ++ second
  | names => "expected one of " ++ ", ".intercalate names

def DecodeError.message : DecodeError → String
  | .invalidType found expected => "invalid type: " ++ found.text ++ ", expected " ++ expected.text
  | .invalidValue found expected =>
    "invalid value: " ++ found.text ++ ", expected " ++ expected.text
  | .invalidLength length expected =>
    "invalid length " ++ toString length ++ ", expected " ++ expected.text
  | .missingField field => "missing field `" ++ field ++ "`"
  | .unknownField field known => "unknown field `" ++ field ++ "`, " ++ alternatives known
  | .unknownVariant variant known => "unknown variant `" ++ variant ++ "`, " ++ alternatives known
  | .timestamp error => error.message
  | .reported words position => words ++ position.elim "" Position.text

/--
The error that is reported by a text. A position at the end of the text is the position of the
error; lines count from 1, so line 0 stands for no position.
-/
def DecodeError.ofText (text : String) : DecodeError :=
  match Position.split? text.toList with
  | none => .reported text none
  | some (words, position) =>
    .reported (String.ofList words) (if position.line = 0 then none else some position)

end AlertContacts.Json
