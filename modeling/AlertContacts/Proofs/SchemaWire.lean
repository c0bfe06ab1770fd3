import AlertContacts.Proofs.Record
import AlertContacts.Schema.Codec

/-!
# Schemas that are read back

Every schema travels without loss: its encoding decodes, and to the schema (`Schema.decode_toValue`,
`ProviderSchema.decode_toValue`).

A type is read back by recursion along the type, in step with its fields. The fields of an object type stand
in an object of their own, below the name of the kind, so a field may be called like a kind or like a field
of an attribute.
-/

namespace AlertContacts

open Json

/-! ### Types -/

namespace AttributeType

mutual

/-- A type is read back as itself, with all that is nested in it. -/
theorem decode_toValue (type : AttributeType) : decode type.toValue = .ok type := by
  match type with
  | .string => simp [toValue, decode, ofName]
  | .int64 => simp [toValue, decode, ofName]
  | .bool => simp [toValue, decode, ofName]
  | .list item => simp [toValue, decode, decode_toValue item, Except.map]
  | .object fields => simp [toValue, decode, decodeFields_fieldsToValues fields, Except.map]

/-- The fields of an object type are read back, in step with their types. -/
theorem decodeFields_fieldsToValues (fields : List (String × AttributeType)) :
    decodeFields (fieldsToValues fields) = .ok fields := by
  match fields with
  | [] => rfl
  | (name, type) :: rest =>
      simp [fieldsToValues, decodeFields, decode_toValue type, decodeFields_fieldsToValues rest,
        Except.bind, Except.map]

end

end AttributeType

/-! ### Attributes -/

/-- The flags are found among the other entries of an attribute. -/
theorem AttributeFlags.decode_attribute (attr : Attribute) : decode attr.toValue = .ok attr.flags := by
  have coherent : record.Coherent := .and (.and (.and (.done _) .field) .field) .field
  refine (coherent.decoder_iff (Entries.ascending_ofList _)).2 ?_
  cases attr.description <;>
    simp [record, Record.ofEntries_done, Record.ofEntries_and, Record.ofEntries_required, Entries.ofList,
      Entries.find?_insert, entries, Diagnostic.optionalEntry, Decoder.boolean]

namespace Attribute

theorem decode_toValue (attr : Attribute) : decode attr.toValue = .ok attr := by
  have coherent : ownRecord.Coherent := .and (.and (.and (.done _) .field) .field) .field
  have own : ownRecord.decoder "Attribute" attr.toValue =
      .ok fun flags => { attr with flags } := by
    refine (coherent.decoder_iff (Entries.ascending_ofList _)).2 ?_
    cases attr.description <;>
      simp [ownRecord, Record.ofEntries_done, Record.ofEntries_and, Record.ofEntries_required,
        Record.ofEntries_optional, Record.ofEntries_withDefault, Entries.ofList, Entries.find?_insert,
        AttributeFlags.entries, Diagnostic.optionalEntry, AttributeType.decode_toValue, Decoder.boolean,
        Decoder.optional, Decoder.string, Except.map]
  exact bind_eq_ok_iff.2 ⟨_, own, bind_eq_ok_iff.2 ⟨_, AttributeFlags.decode_attribute attr, rfl⟩⟩

end Attribute

/-! ### Schemas -/

namespace Schema

/-- A schema is read back with all of its attributes. -/
theorem decode_toValue (schema : Schema) : decode schema.toValue = .ok schema := by
  rcases schema with ⟨version, attributes, description⟩
  have coherent : record.Coherent := .and (.and (.and (.done _) .field) .field) .field
  have decoded := Decoder.map_map Attribute.decode_toValue attributes
  refine (coherent.decoder_iff (Entries.ascending_ofList _)).2 ?_
  cases description <;>
    simp [record, Record.ofEntries_done, Record.ofEntries_and, Record.ofEntries_withDefault,
      Record.ofEntries_optional, Entries.ofList, Entries.find?_insert, Diagnostic.optionalEntry,
      Decoder.unsigned, Decoder.optional, Decoder.string, Except.map, decoded]

end Schema

namespace ProviderSchema

theorem decode_toValue (schema : ProviderSchema) : decode schema.toValue = .ok schema := by
  have coherent : record.Coherent := .and (.and (.done _) .field) .field
  have decoded := Decoder.map_map Schema.decode_toValue schema.resources
  refine (coherent.decoder_iff (Entries.ascending_ofList _)).2 ?_
  simp [record, Record.ofEntries_done, Record.ofEntries_and, Record.ofEntries_withDefault,
    Entries.ofList, Entries.find?_insert, Schema.decode_toValue, decoded]

end ProviderSchema

/--
The encoding of every schema is read back as the schema, and so is that of every provider's schema. Object
types may be nested to any depth and have fields of any name, those of the kinds of types included.
-/
theorem encoded_schemas_read_back :
    (∀ schema : Schema, Schema.decode schema.toValue = .ok schema) ∧
      ∀ schema : ProviderSchema, ProviderSchema.decode schema.toValue = .ok schema :=
  ⟨Schema.decode_toValue, ProviderSchema.decode_toValue⟩

end AlertContacts
