import AlertContacts.Json.DecodeError

/-!
# Decoders

A decoder takes a value to the type it stands for, or tells why it cannot. Lists decode from arrays
and maps from objects, item by item in order, and the first item that does not decode is reported.
-/

namespace AlertContacts.Json

abbrev Decoder (α : Type) := Value → Except DecodeError α

namespace Decoder

variable {α : Type}

def value : Decoder Value := .ok

def string : Decoder String
  | .string text => .ok text
  | other => .error (.invalidType other.found .string)

def boolean : Decoder Bool
  | .boolean value => .ok value
  | other => .error (.invalidType other.found .boolean)

def unsigned : Decoder UInt64
  | .number (.natural value) => .ok value
  | .number (.negative below) => .error (.invalidValue (.number (.negative below)) .unsigned)
  | other => .error (.invalidType other.found .unsigned)

def timestamp : Decoder Timestamp
  | .string text => (Timestamp.parse text).mapError .timestamp
  | other => .error (.invalidType other.found .timestamp)

/-- A value that null leaves out. -/
def optional (decode : Decoder α) : Decoder (Option α)
  | .null => .ok none
  | present => (decode present).map some

def list (decode : Decoder α) : Decoder (List α)
  | .array items => items.mapM decode
  | other => .error (.invalidType other.found .sequence)

def map (decode : Decoder α) : Decoder (Entries α)
  | .object entries => entries.mapM fun entry => (decode entry.2).map (entry.1, ·)
  | other => .error (.invalidType other.found .map)

end Decoder

end AlertContacts.Json
