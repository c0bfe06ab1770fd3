import AlertContacts.Schema.Basic

/-!
# Schemas on the wire

A schema travels as a value. A type is the name of its kind, or an object whose only key is the kind
and whose value is the type of the items or the types of the fields. The flags of an attribute stand
beside its own fields, so an attribute decodes from an object in two rounds: first its own fields,
then the flags among the entries that the first round sets aside.
-/

namespace AlertContacts

open Json

namespace AttributeType

def kinds : List String := ["string", "int64", "bool", "list", "object"]

mutual

def toValue : AttributeType → Value
  | .string => .string "string"
  | .int64 => .string "int64"
  | .bool => .string "bool"
  | .list item => .object [("list", toValue item)]
  | .object fields => .object [("object", .object (fieldsToValues fields))]

def fieldsToValues : List (String × AttributeType) → List (String × Value)
  | [] => []
  | (name, fieldType) :: rest => (name, toValue fieldType) :: fieldsToValues rest

end

def ofName (name : String) : Except DecodeError AttributeType :=
  if name = "string" then .ok .string
  else if name = "int64" then .ok .int64
  else if name = "bool" then .ok .bool
  else if name = "list" || name = "object" then .error (.invalidType .bareVariant .variantData)
  else .error (.unknownVariant name kinds)

mutual

def decode : Value → Except DecodeError AttributeType
  | .string name => ofName name
  | .object [(kind, value)] =>
    if kind = "list" then (decode value).map .list
    else if kind = "object" then
      match value with
      | .object fields => (decodeFields fields).map .object
      | other => .error (.invalidType other.found .map)
    else
      (ofName kind).bind fun type =>
        match value with
        | .null => .ok type
        | other => .error (.invalidType other.found .nothing)
  | .object _ => .error (.invalidValue .map .oneEntry)
  | other => .error (.invalidType other.found .variant)

def decodeFields : List (String × Value) → Except DecodeError (List (String × AttributeType))
  | [] => .ok []
  | (name, value) :: rest =>
    (decode value).bind fun fieldType =>
      (decodeFields rest).map ((name, fieldType) :: ·)

end

end AttributeType

namespace AttributeFlags

def record : Record AttributeFlags :=
  (Record.done AttributeFlags.mk)
    |>.and (.required "required" Decoder.boolean)
    |>.and (.required "optional" Decoder.boolean)
    |>.and (.required "computed" Decoder.boolean)

def decode : Decoder AttributeFlags :=
  record.decoder "AttributeFlags"

def entries (flags : AttributeFlags) : List (String × Value) :=
  [("required", .boolean flags.required), ("optional", .boolean flags.optional),
   ("computed", .boolean flags.computed)]

def toValue (flags : AttributeFlags) : Value :=
  .ofEntries flags.entries

end AttributeFlags

namespace Attribute

/-- The fields of an attribute beside its flags; the flags are filled in by the second round. -/
def ownRecord : Record (AttributeFlags → Attribute) :=
  (Record.done fun type description forceNew flags => Attribute.mk type flags description forceNew)
    |>.and (.required "type" AttributeType.decode)
    |>.and (.optional "description" Decoder.string)
    |>.and (.withDefault "force_new" Decoder.boolean false)

def decode : Decoder Attribute
  | .object entries => do
    let withFlags ← ownRecord.decoder "Attribute" (.object entries)
    let flags ← AttributeFlags.decode (.object entries)
    return withFlags flags
  | other => .error (.invalidType other.found (.record "Attribute"))

def toValue (attr : Attribute) : Value :=
  .ofEntries
    ([("type", attr.type.toValue)] ++ attr.flags.entries ++
      Diagnostic.optionalEntry "description" attr.description ++
      [("force_new", .boolean attr.forceNew)])

end Attribute

namespace Schema

def record : Record Schema :=
  (Record.done Schema.mk)
    |>.and (.withDefault "version" Decoder.unsigned 0)
    |>.and (.withDefault "attributes" (Decoder.map Attribute.decode) [])
    |>.and (.optional "description" Decoder.string)

def decode : Decoder Schema :=
  record.decoder "Schema"

def toValue (schema : Schema) : Value :=
  .ofEntries
    ([("version", .number (.natural schema.version)),
      ("attributes", .object (schema.attributes.map fun entry => (entry.1, entry.2.toValue)))] ++
      Diagnostic.optionalEntry "description" schema.description)

end Schema

namespace ProviderSchema

def record : Record ProviderSchema :=
  (Record.done ProviderSchema.mk)
    |>.and (.withDefault "provider" Schema.decode {})
    |>.and (.withDefault "resources" (Decoder.map Schema.decode) [])

def decode : Decoder ProviderSchema :=
  record.decoder "ProviderSchema"

def toValue (schema : ProviderSchema) : Value :=
  .ofEntries
    [("provider", schema.provider.toValue),
     ("resources", .object (schema.resources.map fun entry => (entry.1, entry.2.toValue)))]

end ProviderSchema

end AlertContacts
