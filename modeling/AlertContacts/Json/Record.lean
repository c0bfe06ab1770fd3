import AlertContacts.Json.Decoder

/-!
# Records

A record decodes from an object, its fields by name, or from an array, its fields by position.

From an object the entries are visited first, in order of their keys, and the first field whose
value does not decode is reported; entries that name no field are left out, unless the record is
strict. Then the fields are taken in the order of their declaration, and the first one that is
missing is reported. From an array the fields take their items in the order of their declaration; a
field without an item is reported unless it has a default, and so are items behind the last field.

A `Record α` describes the fields of a record in order, and how their values make up an `α`.
-/

namespace AlertContacts.Json

/-- A declared field: its name, and whether a value decodes as it. -/
structure Field where
  name : String
  check : Value → Except DecodeError Unit

structure Record (α : Type) where
  fields : List Field
  ofEntries : Entries Value → Except DecodeError α
  /-- The record made from the items of an array, and the items that are left. -/
  ofItems : (tooShort : Nat → DecodeError) → (index : Nat) → List Value →
    Except DecodeError (α × List Value)

namespace Record

variable {α β : Type}

def done (result : α) : Record α where
  fields := []
  ofEntries _ := .ok result
  ofItems _ _ items := .ok (result, items)

def and (first : Record (α → β)) (second : Record α) : Record β where
  fields := first.fields ++ second.fields
  ofEntries entries := do
    let function ← first.ofEntries entries
    let argument ← second.ofEntries entries
    return function argument
  ofItems tooShort index items := do
    let (function, items) ← first.ofItems tooShort index items
    let (argument, items) ← second.ofItems tooShort (index + first.fields.length) items
    return (function argument, items)

/--
One field. `absent` is what an object without the field gives, and `unfilled` is what an array
without an item for it gives.
-/
def field (name : String) (decode : Decoder α) (absent unfilled : Option α) : Record α where
  fields := [⟨name, fun value => (decode value).map fun _ => ()⟩]
  ofEntries entries :=
    match entries.find? name, absent with
    | some value, _ => decode value
    | none, some result => .ok result
    | none, none => .error (.missingField name)
  ofItems tooShort index items :=
    match items, unfilled with
    | value :: rest, _ => (decode value).map (·, rest)
    | [], some result => .ok (result, [])
    | [], none => .error (tooShort index)

def required (name : String) (decode : Decoder α) : Record α :=
  field name decode none none

/-- A field that an object may leave out or set to null. -/
def optional (name : String) (decode : Decoder α) : Record (Option α) :=
  field name (Decoder.optional decode) (some none) none

def withDefault (name : String) (decode : Decoder α) (default : α) : Record α :=
  field name decode (some default) (some default)

/-- Visits the entries of an object in order; `strict` refuses entries that name no field. -/
def visit (fields : List Field) (strict : Bool) : List (String × Value) → Except DecodeError Unit
  | [] => .ok ()
  | (key, value) :: rest =>
    match fields.find? (·.name = key) with
    | some field => do
      field.check value
      visit fields strict rest
    | none =>
      if strict then .error (.unknownField key (fields.map Field.name))
      else visit fields strict rest

def decode (record : Record α) (name : String) (strict : Bool) : Decoder α
  | .object entries => do
    visit record.fields strict entries
    record.ofEntries entries
  | .array items => do
    let size := record.fields.length
    let (result, rest) ← record.ofItems (.invalidLength · (.recordItems name size)) 0 items
    if rest.isEmpty then return result
    else .error (.invalidLength items.length .fewerItems)
  | other => .error (.invalidType other.found (.record name))

def decoder (record : Record α) (name : String) : Decoder α :=
  record.decode name false

def strictDecoder (record : Record α) (name : String) : Decoder α :=
  record.decode name true

end Record

end AlertContacts.Json
