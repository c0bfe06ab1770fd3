import AlertContacts.Proofs.Misfits
import AlertContacts.Schema.Contact

/-!
# Values and schemas

What it means that a value is of a type (`AttributeType.Describes`), and that an object is a state of a
schema, with its computed attributes (`Schema.Describes`). The check is about configurations: it takes null
for a value of every type and passes over computed attributes, so it finds nothing wrong with a state of the
schema (`Schema.validate_eq_nil_of_describes`), and it does not tell an attribute that is null from one that
is absent (`Schema.validate_insert_null`).
-/

namespace AlertContacts

open Json

/-! ### Types -/

namespace AttributeType

/--
A value is of a type, with all that it contains: the items of a list are of its item type, and an object
has exactly the fields of its type. Null is of no type.
-/
inductive Describes : AttributeType → Value → Prop where
  | string (text : String) : Describes .string (.string text)
  | int64 {number : Number} (whole : number.isInteger = true) : Describes .int64 (.number number)
  | bool (value : Bool) : Describes .bool (.boolean value)
  | list {item : AttributeType} {items : List Value} (each : ∀ value ∈ items, Describes item value) :
      Describes (.list item) (.array items)
  | object {fields : List (String × AttributeType)} {entries : Entries Value}
      (names : entries.names = Entries.names fields)
      (each : ∀ field ∈ fields, ∀ value ∈ entries.find? field.1, Describes field.2 value) :
      Describes (.object fields) (.object entries)

theorem Describes.ne_null {type : AttributeType} {value : Value} (describes : type.Describes value) :
    value ≠ .null := by
  rintro rfl
  cases describes

/-- A value of a type conforms to it; to conform, fields may also be null or missing. -/
theorem Describes.fits {type : AttributeType} {value : Value} (describes : type.Describes value) :
    type.Fits value := by
  induction describes with
  | string text => exact .string text
  | int64 whole => exact .int64 whole
  | bool value => exact .bool value
  | list _ ih => exact .list ih
  | object _ _ ih => exact .object ih

/-- The check finds nothing in a value of the type, wherever it stands. -/
theorem check_eq_nil_of_describes {type : AttributeType} {value : Value}
    (describes : type.Describes value) (path : String) : type.check path value = [] :=
  check_eq_nil_iff_fits.2 describes.fits

theorem check_int64_eq_nil_iff {path : String} {value : Value} :
    int64.check path value = [] ↔
      value = .null ∨ ∃ number, value = .number number ∧ number.isInteger = true := by
  cases value <;> simp [check]

theorem check_bool_eq_nil_iff {path : String} {value : Value} :
    bool.check path value = [] ↔ value = .null ∨ ∃ flag, value = .boolean flag := by
  cases value <;> simp [check]

end AttributeType

/-! ### Schemas -/

namespace Schema

/--
An object is a state of a schema: it has exactly the declared attributes, and each of them has a value of
its type, or null if it is neither required nor computed.
-/
structure Describes (schema : Schema) (entries : Entries Value) : Prop where
  names : entries.names = schema.attributes.names
  typed : ∀ declared ∈ schema.attributes, ∀ value ∈ entries.find? declared.1,
    declared.2.type.Describes value ∨
      value = .null ∧ declared.2.flags.required = false ∧ declared.2.flags.computed = false

variable {schema : Schema} {name : String} {attr : Attribute} {entries : Entries Value}

/-- Validation finds nothing exactly if each declared attribute passes and no other key is there. -/
theorem validate_object_eq_nil_iff :
    schema.validate (.object entries) = [] ↔
      (∀ declared ∈ schema.attributes,
        checkAttribute declared.1 declared.2 (entries.find? declared.1) = []) ∧
      ∀ entry ∈ entries, schema.attributes.has entry.1 = true := by
  simp [validate, List.flatMap_eq_nil_iff, List.filter_eq_nil_iff]

theorem isError_of_mem_checkAttribute {value : Option Value} :
    ∀ diagnostic ∈ checkAttribute name attr value, diagnostic.isError = true := by
  unfold checkAttribute
  split
  · simp
  · split
    · split <;> simp [missingAttribute, Diagnostic.isError]
    · split <;> simp [missingAttribute, Diagnostic.isError]
    · exact AttributeType.isError_of_mem_check _ _ _

/-- Validation reports errors, and no warnings. -/
theorem isError_of_mem_validate {value : Value} :
    ∀ diagnostic ∈ schema.validate value, diagnostic.isError = true := by
  unfold validate
  split
  · rw [List.forall_mem_append]
    constructor
    · intro diagnostic reported
      rcases List.mem_flatMap.1 reported with ⟨declared, -, reported⟩
      exact isError_of_mem_checkAttribute diagnostic reported
    · intro diagnostic reported
      rcases List.mem_map.1 reported with ⟨entry, -, rfl⟩
      rfl
  · simp
  · simp [expectedObject, Diagnostic.isError]

/-- In an object without diagnostics every declared attribute passes its check. -/
theorem checkAttribute_eq_nil_of_find? (declared : schema.attributes.find? name = some attr)
    (valid : schema.validate (.object entries) = []) :
    checkAttribute name attr (entries.find? name) = [] :=
  (validate_object_eq_nil_iff.1 valid).1 _ (Entries.mem_of_find?_eq_some declared)

/-- A text attribute passes with a text, or without any value if it is not required. -/
theorem checkAttribute_string_eq_nil_iff {value : Option Value} (string : attr.type = .string)
    (given : attr.flags.isComputedOnly = false) :
    checkAttribute name attr value = [] ↔
      (∃ text, value = some (.string text)) ∨
        attr.flags.required = false ∧ (value = none ∨ value = some .null) := by
  unfold checkAttribute
  rw [given]
  rcases value with _ | value
  · simp
  · cases value <;> simp [string, AttributeType.check]

/-- An optional value has to be of its type, and nothing else is asked. -/
theorem checkAttribute_optional {value : Value} (given : attr.flags.isComputedOnly = false)
    (optional : attr.flags.required = false) :
    checkAttribute name attr (some value) = attr.type.check name value := by
  unfold checkAttribute
  rw [given]
  cases value <;> simp [optional, AttributeType.check]

/-- In an object without diagnostics the value of an optional attribute is of its type, or null. -/
theorem check_eq_nil_of_find? {value : Value} (declared : schema.attributes.find? name = some attr)
    (given : attr.flags.isComputedOnly = false) (optional : attr.flags.required = false)
    (valid : schema.validate (.object entries) = []) (found : entries.find? name = some value) :
    attr.type.check name value = [] := by
  have fits := checkAttribute_eq_nil_of_find? declared valid
  rwa [found, checkAttribute_optional given optional] at fits

/-- An attribute with a value of its type passes, whether it is given or computed. -/
theorem checkAttribute_eq_nil_of_describes {value : Value} (describes : attr.type.Describes value) :
    checkAttribute name attr (some value) = [] := by
  unfold checkAttribute
  split
  · rfl
  · split
    · rename_i absent
      cases absent
    · rename_i null
      exact absurd (Option.some.inj null) describes.ne_null
    · rename_i present
      cases present
      exact AttributeType.check_eq_nil_of_describes describes name

/-- A state of a schema has no errors. -/
theorem validate_eq_nil_of_describes (describes : schema.Describes entries) :
    schema.validate (.object entries) = [] := by
  apply validate_object_eq_nil_iff.2
  constructor
  · intro declared member
    have mentioned : declared.1 ∈ entries.names := by
      rw [describes.names]
      exact List.mem_map_of_mem member
    rcases Entries.exists_find?_of_mem_names mentioned with ⟨value, found⟩
    rw [found]
    rcases describes.typed declared member value found with typed | ⟨rfl, optional, -⟩
    · exact checkAttribute_eq_nil_of_describes typed
    · simp [checkAttribute, optional]
  · intro entry member
    rw [Entries.has_iff_mem_names, ← describes.names]
    exact List.mem_map_of_mem member

/-! ### Null and absent attributes -/

theorem checkAttribute_null : checkAttribute name attr (some .null) = checkAttribute name attr none := rfl

/-- A declared attribute that is not there may as well be null. -/
theorem validate_insert_null (declared : schema.attributes.has name = true)
    (absent : entries.find? name = none) :
    schema.validate (.object (entries.insert name .null)) = schema.validate (.object entries) := by
  have attributes : ∀ declared ∈ schema.attributes,
      checkAttribute declared.1 declared.2 ((entries.insert name .null).find? declared.1) =
        checkAttribute declared.1 declared.2 (entries.find? declared.1) := by
    intro declared _
    rw [Entries.find?_insert]
    split
    · rename_i same
      rw [← same, absent, checkAttribute_null]
    · rfl
  have undeclared : (entries.insert name .null).filter (fun entry => !schema.attributes.has entry.1) =
      entries.filter fun entry => !schema.attributes.has entry.1 := by
    apply Entries.filter_insert
    simp [declared]
  simp only [validate, List.flatMap_def]
  rw [undeclared, List.map_congr_left attributes]

end Schema

end AlertContacts
