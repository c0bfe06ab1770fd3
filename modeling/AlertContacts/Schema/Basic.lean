import AlertContacts.Schema.Diagnostic

/-!
# Schemas

The shape of a configuration or a state: its attributes by name, each with a type and with flags
that tell who provides its value. Types nest: a list has items of one type, and an object has a
fixed set of fields.
-/

namespace AlertContacts

inductive AttributeType where
  | string
  | int64
  | bool
  | list (item : AttributeType)
  | object (fields : List (String × AttributeType))
  deriving Repr, Inhabited

namespace AttributeType

/-- The object type with the given fields, put into order. -/
def ofFields (fields : List (String × AttributeType)) : AttributeType :=
  .object (Entries.ofList fields)

def name : AttributeType → String
  | .string => "string"
  | .int64 => "int64"
  | .bool => "bool"
  | .list _ => "list"
  | .object _ => "object"

mutual

/-- Whether the object types in a type have their fields in ascending order of the names. -/
def Ordered : AttributeType → Prop
  | .list item => Ordered item
  | .object fields => Entries.Ascending fields ∧ OrderedFields fields
  | _ => True

def OrderedFields : List (String × AttributeType) → Prop
  | [] => True
  | (_, fieldType) :: rest => Ordered fieldType ∧ OrderedFields rest

end

end AttributeType

/-- Who provides the value of an attribute. -/
structure AttributeFlags where
  required : Bool := false
  optional : Bool := false
  computed : Bool := false
  deriving DecidableEq, Repr

def AttributeFlags.isComputedOnly (flags : AttributeFlags) : Bool :=
  flags.computed && !flags.optional && !flags.required

structure Attribute where
  type : AttributeType
  flags : AttributeFlags
  description : Option String := none
  forceNew : Bool := false
  deriving Repr

namespace Attribute

def requiredString : Attribute where
  type := .string
  flags := { required := true }

def optionalString : Attribute where
  type := .string
  flags := { optional := true }

def computedString : Attribute where
  type := .string
  flags := { computed := true }

def optionalInt64 : Attribute where
  type := .int64
  flags := { optional := true }

def optionalBool : Attribute where
  type := .bool
  flags := { optional := true }

def withDescription (attr : Attribute) (description : String) : Attribute :=
  { attr with description := some description }

def withForceNew (attr : Attribute) : Attribute :=
  { attr with forceNew := true }

end Attribute

structure Schema where
  version : UInt64 := 0
  attributes : Entries Attribute := []
  description : Option String := none
  deriving Repr

namespace Schema

/-- A schema with one more attribute, in place of one of the same name. -/
def withAttribute (schema : Schema) (name : String) (attr : Attribute) : Schema :=
  { schema with attributes := schema.attributes.insert name attr }

def withDescription (schema : Schema) (description : String) : Schema :=
  { schema with description := some description }

end Schema

structure ProviderSchema where
  provider : Schema := {}
  resources : Entries Schema := []
  deriving Repr

namespace ProviderSchema

def withResource (schema : ProviderSchema) (name : String) (resource : Schema) : ProviderSchema :=
  { schema with resources := schema.resources.insert name resource }

end ProviderSchema

end AlertContacts
