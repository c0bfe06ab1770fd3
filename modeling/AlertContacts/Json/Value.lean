import AlertContacts.Entries
import AlertContacts.Json.Number

/-!
# Values

The values of a document, in which states, configurations, schemas and result rows travel. The
entries of an object are ordered by key, which `Value.Ordered` states for an object and for
everything inside it; all functions of the library that build objects keep that order.
-/

namespace AlertContacts.Json

inductive Value where
  | null
  | boolean (value : Bool)
  | number (value : Number)
  | string (value : String)
  | array (items : List Value)
  | object (entries : List (String × Value))
  deriving Repr, Inhabited

namespace Value

mutual

/-- Whether the objects in a value have their entries in ascending order of the keys. -/
def Ordered : Value → Prop
  | .array items => OrderedItems items
  | .object entries => Entries.Ascending entries ∧ OrderedEntries entries
  | _ => True

def OrderedItems : List Value → Prop
  | [] => True
  | item :: rest => Ordered item ∧ OrderedItems rest

def OrderedEntries : List (String × Value) → Prop
  | [] => True
  | (_, value) :: rest => Ordered value ∧ OrderedEntries rest

end

/-- The object with the given entries, put into order. -/
def ofEntries (entries : List (String × Value)) : Value :=
  .object (Entries.ofList entries)

def ofOptional : Option String → Value
  | none => .null
  | some text => .string text

def ofNat (count : Nat) : Value :=
  .number (.natural (UInt64.ofNat count))

def get? (key : String) : Value → Option Value
  | .object entries => Entries.find? key entries
  | _ => none

def text? : Value → Option String
  | .string text => some text
  | _ => none

def kind : Value → String
  | .null => "null"
  | .boolean _ => "bool"
  | .number _ => "number"
  | .string _ => "string"
  | .array _ => "array"
  | .object _ => "object"

end Value

end AlertContacts.Json
