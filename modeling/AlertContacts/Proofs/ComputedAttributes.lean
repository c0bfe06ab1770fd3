import AlertContacts.Client.Script
import AlertContacts.Proofs.Entries
import AlertContacts.Proofs.Offences
import AlertContacts.Provider.Contact

/-!
# Computed attributes

What only the provider sets is not looked at when an object is validated. Two objects that agree on every
other name have the same diagnostics, in the same order (`Schema.validate_eq_of_agreeOn`), and these names are
the only ones that do not count: under any other name something can be put that makes a difference
(`Schema.exists_validate_ne`).

For contacts these are the identifier, the fully qualified name and the row of `SHOW`. So a state of a contact
is validated as the configuration that it extends (`ContactProvider.computed_values_do_not_count`).
-/

namespace AlertContacts

open Json

variable {σ : Type}

/-! ### Values for every type -/

namespace AttributeType

/-- A value of a type, with as little in it as the type allows. -/
def leastValue : AttributeType → Value
  | .string => .string ""
  | .int64 => .number (.natural 0)
  | .bool => .boolean false
  | .list _ => .array []
  | .object _ => .object []

theorem fits_leastValue (type : AttributeType) : type.Fits type.leastValue := by
  cases type with
  | string => exact .string ""
  | int64 => exact .int64 rfl
  | bool => exact .bool false
  | list item => apply Fits.list; simp
  | object fields => apply Fits.object; simp

theorem leastValue_ne_null (type : AttributeType) : type.leastValue ≠ .null := by
  cases type <;> simp [leastValue]

/-- A value of another type. -/
def strangeValue : AttributeType → Value
  | .string => .boolean false
  | _ => .string ""

theorem not_fits_strangeValue (type : AttributeType) : ¬type.Fits type.strangeValue := by
  intro fits
  cases type <;> cases fits

end AttributeType

/-! ### Names that do not count -/

namespace Schema

/-- Whether a name is that of an attribute that only the provider sets. -/
def ComputesOnly (schema : Schema) (name : String) : Prop :=
  ∃ attr, schema.attributes.find? name = some attr ∧ attr.flags.isComputedOnly = true

variable {schema : Schema} (ordered : schema.attributes.Ascending)

include ordered

/-- Objects that agree on every name that is not left to the provider have the same diagnostics. -/
theorem validate_eq_of_agreeOn {first second : Entries Value} (firstAscending : first.Ascending)
    (secondAscending : second.Ascending)
    (agree : first.AgreeOn (fun name => ¬schema.ComputesOnly name) second) :
    schema.validate (.object first) = schema.validate (.object second) := by
  have attributes : ∀ declared ∈ schema.attributes,
      checkAttribute declared.1 declared.2 (first.find? declared.1) =
        checkAttribute declared.1 declared.2 (second.find? declared.1) := by
    rintro ⟨name, attr⟩ declared
    have found := Entries.find?_of_mem ordered declared
    cases computed : attr.flags.isComputedOnly with
    | true => simp [checkAttribute, computed]
    | false =>
        have counts : ¬schema.ComputesOnly name := by
          rintro ⟨other, foundAgain, computedAgain⟩
          cases found.symm.trans foundAgain
          cases computed.symm.trans computedAgain
        rw [agree name counts]
  have undeclared : first.filter (fun entry => !schema.attributes.has entry.1) =
      second.filter fun entry => !schema.attributes.has entry.1 := by
    apply Entries.filter_eq_of_agreeOn firstAscending secondAscending
      fun name => !schema.attributes.has name
    intro name unknown
    apply agree
    rintro ⟨attr, found, -⟩
    simp [Entries.has, found] at unknown
  rw [validate, validate, List.flatMap_congr attributes, undeclared]

/-- There is an object that conforms to the schema. -/
theorem exists_accepted : ∃ entries : Entries Value, entries.Ascending ∧ schema.Accepts entries := by
  let entries : Entries Value :=
    schema.attributes.map fun declared => (declared.1, declared.2.type.leastValue)
  have ascending : entries.Ascending := List.pairwise_map.2 ordered
  have found : ∀ declared ∈ schema.attributes,
      entries.find? declared.1 = some declared.2.type.leastValue := by
    intro declared member
    apply Entries.find?_of_mem ascending
    exact List.mem_map_of_mem member
  refine ⟨entries, ascending, ?_, ?_, ?_⟩
  · intro declared member _ _
    exact ⟨_, found declared member, declared.2.type.leastValue_ne_null⟩
  · intro declared member _ value there
    cases (found declared member).symm.trans there
    exact declared.2.type.fits_leastValue
  · intro name there
    simpa [entries, Entries.names] using there

/-- Under a name that is not left to the provider something makes a difference. -/
theorem exists_validate_ne {name : String} (counts : ¬schema.ComputesOnly name) :
    ∃ first second : Entries Value, first.Ascending ∧ second.Ascending ∧
      first.AgreeOn (· ≠ name) second ∧
      schema.validate (.object first) ≠ schema.validate (.object second) := by
  rcases exists_accepted ordered with ⟨entries, ascending, accepts⟩
  -- To a declared attribute the value is of the wrong type, and an undeclared name may not be there at all.
  let value := (schema.attributes.find? name).elim Value.null (·.type.strangeValue)
  have found : (entries.insert name value).find? name = some value := by
    rw [Entries.find?_insert, if_pos rfl]
  refine ⟨entries, entries.insert name value, ascending,
    Entries.ascending_insert ascending name value, ?_, ?_⟩
  · intro other different
    rw [Entries.find?_insert, if_neg different.symm]
  · rw [validate_eq_nil_iff_accepts.2 accepts]
    intro same
    have acceptsAgain := validate_eq_nil_iff_accepts.1 same.symm
    have known := acceptsAgain.declared name
      (List.mem_map_of_mem (Entries.mem_of_find?_eq_some found))
    rcases Entries.exists_find?_of_mem_names known with ⟨attr, declared⟩
    have given : attr.flags.isComputedOnly = false := by
      rw [← Bool.not_eq_true]
      intro computed
      exact counts ⟨attr, declared, computed⟩
    have fits := acceptsAgain.typed _ (Entries.mem_of_find?_eq_some declared) given value found
    apply attr.type.not_fits_strangeValue
    simpa [value, declared] using fits

end Schema

/-! ### Contacts -/

namespace ContactProvider

/-- For contacts three names are left to the provider. -/
theorem computesOnly_contactSchema_iff {name : String} :
    contactSchema.ComputesOnly name ↔
      name ∈ [idAttribute, fullyQualifiedNameAttribute, showOutputAttribute] := by
  constructor
  · rintro ⟨attr, found, computed⟩
    have declared := Entries.mem_of_find?_eq_some found
    change (name, attr) ∈ [_, _, _, _, _, _] at declared
    simp only [List.mem_cons, List.not_mem_nil, or_false, Prod.mk.injEq] at declared
    rcases declared with ⟨rfl, rfl⟩ | ⟨rfl, rfl⟩ | ⟨rfl, rfl⟩ | ⟨rfl, rfl⟩ | ⟨rfl, rfl⟩ | ⟨rfl, rfl⟩
    · cases computed
    · cases computed
    · simp [fullyQualifiedNameAttribute]
    · simp [idAttribute]
    · cases computed
    · simp [showOutputAttribute]
  · intro member
    simp only [List.mem_cons, List.not_mem_nil, or_false] at member
    rcases member with rfl | rfl | rfl
    · exact ⟨_, rfl, rfl⟩
    · exact ⟨_, rfl, rfl⟩
    · exact ⟨_, rfl, rfl⟩

theorem ascending_contactSchema : contactSchema.attributes.Ascending :=
  Entries.ascending_ofList _

/-- A state is validated as the configuration that it extends by what the provider computes. -/
theorem contactDiagnostics_extended {config state : Entries Value} (ascending : config.Ascending)
    (stateAscending : state.Ascending)
    (agree : config.AgreeOn
      (· ∉ [idAttribute, fullyQualifiedNameAttribute, showOutputAttribute]) state) :
    contactDiagnostics (.object state) = contactDiagnostics (.object config) := by
  have validated : contactSchema.validate (.object config) =
      contactSchema.validate (.object state) := by
    apply Schema.validate_eq_of_agreeOn ascending_contactSchema ascending stateAscending
    intro name given
    apply agree
    rwa [← computesOnly_contactSchema_iff]
  have named : config.find? "name" = state.find? "name" := agree "name" (by decide)
  rw [contactDiagnostics, contactDiagnostics, validated, Value.get?, Value.get?, named]

/--
Objects that agree apart from the names of computed-only attributes have the same diagnostics, and no other
name is passed over. So a state of a contact is validated as the configuration that it extends, whatever it
has for what the provider computes.
-/
theorem computed_values_do_not_count {schema : Schema} (ordered : schema.attributes.Ascending) :
    (∀ first second : Entries Value, first.Ascending → second.Ascending →
      first.AgreeOn (fun name => ¬schema.ComputesOnly name) second →
      schema.validate (.object first) = schema.validate (.object second)) ∧
    (∀ name, ¬schema.ComputesOnly name →
      ∃ first second : Entries Value, first.Ascending ∧ second.Ascending ∧
        first.AgreeOn (· ≠ name) second ∧
        schema.validate (.object first) ≠ schema.validate (.object second)) ∧
    ∀ (resourceType : String) (config state : Entries Value), config.Ascending → state.Ascending →
      config.AgreeOn (· ∉ [idAttribute, fullyQualifiedNameAttribute, showOutputAttribute]) state →
      (validateResourceConfig resourceType (.object state) :
          Run (Session σ) ProviderError (List Diagnostic)) =
        validateResourceConfig resourceType (.object config) := by
  refine ⟨?_, ?_, ?_⟩
  · intro first second firstAscending secondAscending agree
    exact Schema.validate_eq_of_agreeOn ordered firstAscending secondAscending agree
  · intro name counts
    exact Schema.exists_validate_ne ordered counts
  · intro resourceType config state ascending stateAscending agree
    have same := contactDiagnostics_extended ascending stateAscending agree
    rw [validateResourceConfig, validateResourceConfig, same]

/-- A configuration without an address and with a key too many. -/
def wrongConfig : Entries Value :=
  [("comment", .boolean true), ("mail", .string "ops@example.com"), ("name", .string "OPS")]

def wrongState : Entries Value :=
  (wrongConfig.insert idAttribute (.boolean true)).insert showOutputAttribute (.string "none")

theorem computed_values_do_not_count_in_state :
    contactSchema.attributes.Ascending ∧ wrongConfig.Ascending ∧ wrongState.Ascending ∧
      wrongConfig.AgreeOn (fun name => ¬contactSchema.ComputesOnly name) wrongState ∧
      contactSchema.validate (.object wrongConfig) = contactSchema.validate (.object wrongState) ∧
      (contactSchema.validate (.object wrongConfig)).map Diagnostic.path =
        [some "comment", some "email", some "mail"] ∧
      (validateResourceConfig contactResourceType (.object wrongState) :
          Run (Session Script) ProviderError (List Diagnostic)) =
        validateResourceConfig contactResourceType (.object wrongConfig) := by
  have ascending : wrongConfig.Ascending := by decide
  have stateAscending : wrongState.Ascending :=
    Entries.ascending_insert (Entries.ascending_insert ascending _ _) _ _
  have agree : wrongConfig.AgreeOn
      (· ∉ [idAttribute, fullyQualifiedNameAttribute, showOutputAttribute]) wrongState := by
    intro name given
    simp only [List.mem_cons, List.not_mem_nil, or_false, not_or] at given
    rw [wrongState, Entries.find?_insert, Entries.find?_insert, if_neg (Ne.symm given.2.2),
      if_neg (Ne.symm given.1)]
  have agreeOnGiven : wrongConfig.AgreeOn (fun name => ¬contactSchema.ComputesOnly name)
      wrongState := by
    intro name given
    apply agree
    rwa [← computesOnly_contactSchema_iff]
  rcases computed_values_do_not_count (σ := Script) ascending_contactSchema with ⟨same, -, extended⟩
  exact ⟨ascending_contactSchema, ascending, stateAscending, agreeOnGiven,
    same _ _ ascending stateAscending agreeOnGiven, rfl,
    extended contactResourceType _ _ ascending stateAscending agree⟩

end ContactProvider

end AlertContacts
