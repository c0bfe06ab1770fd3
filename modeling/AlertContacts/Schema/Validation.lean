import AlertContacts.Schema.Basic

/-!
# Validation against a schema

`Schema.validate` compares an object with a schema and reports one error for each position that does
not fit: for the attributes by ascending name, then for the undeclared keys in the order of the
object. An attribute that only the provider sets is not looked at. A required attribute has to be
there and not null; null fits every type. The path of a position names the attribute, then an index
in brackets for an item and a name behind a dot for a field.
-/

namespace AlertContacts

open Json

def typeMismatch (path : String) (expected : AttributeType) (found : Value) : Diagnostic where
  severity := .error
  summary := "Invalid type for attribute '" ++ path ++ "'"
  detail := some ("Expected " ++ expected.name ++ ", got " ++ found.kind)
  path := some path

namespace AttributeType

def itemPath (path : String) (index : Nat) : String :=
  path ++ "[" ++ toString index ++ "]"

def fieldPath (path name : String) : String :=
  path ++ "." ++ name

mutual

def check (type : AttributeType) (path : String) (value : Value) : List Diagnostic :=
  match type, value with
  | _, .null => []
  | .string, .string _ => []
  | .bool, .boolean _ => []
  | .int64, .number number =>
    if number.isInteger then [] else [typeMismatch path .int64 (.number number)]
  | .list item, .array items =>
    (items.mapIdx fun index value => check item (itemPath path index) value).flatten
  | .object fields, .object entries => checkFields fields path entries
  | expected, found => [typeMismatch path expected found]

def checkFields (fields : List (String × AttributeType)) (path : String)
    (entries : List (String × Value)) : List Diagnostic :=
  match fields with
  | [] => []
  | (name, fieldType) :: rest =>
    (match Entries.find? name entries with
      | none => []
      | some value => check fieldType (fieldPath path name) value) ++
    checkFields rest path entries

end

end AttributeType

namespace Schema

def missingAttribute (name : String) : Diagnostic where
  severity := .error
  summary := "Missing required attribute '" ++ name ++ "'"
  detail := some "This attribute is required and must be provided"
  path := some name

def unsupportedAttribute (name : String) : Diagnostic where
  severity := .error
  summary := "Unsupported attribute '" ++ name ++ "'"
  detail := some "An attribute with this name is not expected here"
  path := some name

def expectedObject (found : Value) : Diagnostic where
  severity := .error
  summary := "Expected object"
  detail := some ("Got " ++ found.kind)

def checkAttribute (name : String) (attr : Attribute) (value : Option Value) : List Diagnostic :=
  if attr.flags.isComputedOnly then []
  else
    match value with
    | none | some .null => if attr.flags.required then [missingAttribute name] else []
    | some value => attr.type.check name value

/-- The errors of a value that is meant to have the shape of a schema; null has no errors. -/
def validate (schema : Schema) : Value → List Diagnostic
  | .object entries =>
    (schema.attributes.flatMap fun declared =>
      checkAttribute declared.1 declared.2 (Entries.find? declared.1 entries)) ++
    (entries.filter fun entry => !schema.attributes.has entry.1).map fun entry =>
      unsupportedAttribute entry.1
  | .null => []
  | other => [expectedObject other]

def isValid (schema : Schema) (value : Value) : Bool :=
  (schema.validate value).isEmpty

/-- Nothing for a value that has the shape of a schema, else its errors. -/
def validateResult (schema : Schema) (value : Value) : Except (List Diagnostic) Unit :=
  match schema.validate value with
  | [] => .ok ()
  | diagnostics => .error diagnostics

end Schema

end AlertContacts
