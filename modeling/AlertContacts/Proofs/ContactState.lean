import AlertContacts.Proofs.Attributes

/-!
# States that record a contact

A state that the provider records shows the name of its contact as it is, and in its SQL form under
`id` and `fully_qualified_name` (`ContactAttributes.RecordedIn`). The state of a contact that was read
back is of this form, and a state that was moved to another identifier is so again.

Either way the identifier that is read from `id` is the contact's, whatever its name. The name itself is
read as an SQL form although it was not written as one, so decoding such a state gives the contact back
exactly when its name is one that reading does not change (`recorded_contact_reads_back_iff`): the
contact named `"A"`, with its quotes, is taken for the contact named `A`.
-/

namespace AlertContacts

open Json

/-- The identifier of a state is what is read from the text under `id`. -/
theorem stateIdentifier_of_parse {state : Value} {id : String} {identifier : Identifier}
    (recorded : state.get? idAttribute = some (.string id))
    (parses : Identifier.parse id = .ok identifier) : stateIdentifier state = .ok identifier := by
  rw [stateIdentifier, recorded]
  simp only [Option.bind_some, Value.text?, parses, Except.mapError]

/-- The SQL form of an identifier with a name, under `id`, is read as that identifier. -/
theorem stateIdentifier_of_id {state : Value} {identifier : Identifier}
    (recorded : state.get? idAttribute = some (.string identifier.sql))
    (named : identifier.name ≠ "") : stateIdentifier state = .ok identifier :=
  stateIdentifier_of_parse recorded (Identifier.parse_sql named)

namespace ContactAttributes

variable {attributes : ContactAttributes} {state : Value}

/-- A state has these attributes as they are, and is recorded under the SQL form of their name. -/
structure RecordedIn (attributes : ContactAttributes) (state : Value) : Prop where
  decodes : decode state = .ok attributes
  id : state.get? idAttribute = some (.string attributes.identifier.sql)
  fullyQualifiedName :
    state.get? fullyQualifiedNameAttribute = some (.string attributes.identifier.sql)

/-- A state that records a contact tells the identifier of the contact. -/
theorem RecordedIn.stateIdentifier (recorded : attributes.RecordedIn state)
    (named : attributes.name ≠ "") : stateIdentifier state = .ok attributes.identifier :=
  stateIdentifier_of_id recorded.id named

/-- A state that records a contact decodes to its attributes in normal form. -/
theorem RecordedIn.ofState (recorded : attributes.RecordedIn state) :
    ofState state = .ok attributes.normalized :=
  ofState_eq_ok_iff.2 ⟨attributes, recorded.decodes, rfl⟩

/-- A state that decodes is an object with the attributes among its entries. -/
theorem RecordedIn.foundIn (recorded : attributes.RecordedIn state) :
    ∃ entries, state = .object entries ∧ attributes.FoundIn entries := by
  have id := recorded.id
  cases state with
  | object entries => exact ⟨entries, rfl, (decode_object_iff.1 recorded.decodes).2⟩
  | _ => cases id

theorem RecordedIn.ne_null (recorded : attributes.RecordedIn state) : state ≠ .null := by
  rintro rfl
  cases recorded.id

theorem RecordedIn.get?_name (recorded : attributes.RecordedIn state) :
    state.get? "name" = some (.string attributes.name) := by
  rcases recorded.foundIn with ⟨entries, rfl, found⟩
  exact found.name

end ContactAttributes

/-! ### A state under another identifier -/

theorem id_renamedState (prior : Value) (identifier : Identifier) :
    (renamedState prior identifier).get? idAttribute = some (.string identifier.sql) := by
  simp [renamedState, Value.get?, Entries.find?_insert, idAttribute, fullyQualifiedNameAttribute,
    showOutputAttribute]

/-- Moving a state to another identifier makes that the identifier of the state. -/
theorem stateIdentifier_renamedState (prior : Value) {identifier : Identifier}
    (nonempty : identifier.name ≠ "") :
    stateIdentifier (renamedState prior identifier) = .ok identifier :=
  stateIdentifier_of_id (id_renamedState prior identifier) nonempty

/-- Moving a state to another identifier replaces the name and keeps the other attributes. -/
theorem recordedIn_renamedState {entries : Entries Value} {attributes : ContactAttributes}
    (decodes : ContactAttributes.decode (.object entries) = .ok attributes)
    (identifier : Identifier) :
    { attributes with name := identifier.name }.RecordedIn
      (renamedState (.object entries) identifier) := by
  constructor
  · apply ContactAttributes.decode_insert_other _ (by decide)
    apply ContactAttributes.decode_insert_other _ (by decide)
    apply ContactAttributes.decode_insert_name
    exact ContactAttributes.decode_insert_other decodes (by decide) _
  · exact id_renamedState _ identifier
  · simp [renamedState, Value.get?, Entries.find?_insert, fullyQualifiedNameAttribute,
      showOutputAttribute, ContactAttributes.identifier]

/-- A state that was moved decodes as before, but for the name, which is the new one in normal form. -/
theorem ofState_renamedState {entries : Entries Value} {attributes : ContactAttributes}
    (decodes : ContactAttributes.ofState (.object entries) = .ok attributes)
    (identifier : Identifier) :
    ContactAttributes.ofState (renamedState (.object entries) identifier) =
      .ok { attributes with name := ContactAttributes.normalName identifier.name } := by
  rcases ContactAttributes.ofState_eq_ok_iff.1 decodes with ⟨written, found, rfl⟩
  exact (recordedIn_renamedState found identifier).ofState

/-! ### Contacts that were read back -/

namespace Contact

/-- The attributes that the state of a contact shows; an empty comment is shown as none. -/
def attributes (contact : Contact) : ContactAttributes where
  name := contact.name
  email := contact.email
  comment := if contact.comment = "" then none else some contact.comment

theorem identifier_attributes (contact : Contact) :
    contact.attributes.identifier = contact.identifier := rfl

theorem commentValue_attributes (contact : Contact) : contact.attributes.commentValue =
    if contact.comment = "" then .null else .string contact.comment := by
  rw [ContactAttributes.commentValue, attributes]
  split
  · rfl
  · rfl

theorem normalized_attributes (contact : Contact) : contact.attributes.normalized =
    { contact.attributes with name := ContactAttributes.normalName contact.name } := by
  have comment : contact.attributes.comment.filter (· ≠ "") = contact.attributes.comment := by
    rw [attributes]
    split
    · rfl
    · rename_i nonempty
      simp [nonempty]
  rw [ContactAttributes.normalized, comment]
  rfl

theorem comment_attributes_ne (contact : Contact) : contact.attributes.comment ≠ some "" := by
  rw [attributes]
  split
  · simp
  · rename_i nonempty
    simpa using nonempty

end Contact

theorem get?_contactState (contact : Contact) :
    (contactState contact).get? "name" = some (.string contact.name) ∧
      (contactState contact).get? "email" = some (.string contact.email) ∧
        (contactState contact).get? "comment" =
          some (if contact.comment = "" then .null else .string contact.comment) := by
  simp [contactState, Value.ofEntries, Value.get?, Entries.ofList, Entries.find?_insert,
    idAttribute, fullyQualifiedNameAttribute, showOutputAttribute]

/-- The state of a contact is its attributes with the SQL form of its name beside them, and the row. -/
theorem contactState_eq (contact : Contact) :
    contactState contact = .object
      (((contact.attributes.writeInto
        (Entries.insert idAttribute (.string contact.identifier.sql) [])).insert
          fullyQualifiedNameAttribute (.string contact.identifier.sql)).insert showOutputAttribute
            (.array [showOutput contact])) := by
  simp only [contactState, Value.ofEntries, Entries.ofList, List.foldl_cons, List.foldl_nil,
    ContactAttributes.writeInto, contact.commentValue_attributes]
  rfl

/-- The state of a contact that was read back records the contact. -/
theorem recordedIn_contactState (contact : Contact) :
    contact.attributes.RecordedIn (contactState contact) := by
  rw [contactState_eq]
  constructor
  · apply ContactAttributes.decode_insert_other _ (by decide)
    apply ContactAttributes.decode_insert_other _ (by decide)
    exact ContactAttributes.decode_writeInto rfl contact.attributes
  · simp [ContactAttributes.writeInto, Value.get?, Entries.find?_insert, idAttribute,
      fullyQualifiedNameAttribute, showOutputAttribute, contact.identifier_attributes]
  · simp [Value.get?, Entries.find?_insert, fullyQualifiedNameAttribute, showOutputAttribute,
      contact.identifier_attributes]

/-- The state of a contact decodes to what it shows, but for the name, which is read once more. -/
theorem ofState_contactState (contact : Contact) :
    ContactAttributes.ofState (contactState contact) =
      .ok { contact.attributes with name := ContactAttributes.normalName contact.name } := by
  rw [(recordedIn_contactState contact).ofState, contact.normalized_attributes]

/-- The identifier of the state of a contact is the contact's own, if it has a name at all. -/
theorem stateIdentifier_contactState {contact : Contact} (named : contact.name ≠ "") :
    stateIdentifier (contactState contact) = .ok contact.identifier :=
  (recordedIn_contactState contact).stateIdentifier named

namespace ContactAttributes

/--
The state of a contact decodes, with the contact's address and comment, and is recorded under its
identifier. Its name is the contact's, and so the two views of the state agree, exactly when the name is
one that reading does not change.
-/
theorem recorded_contact_reads_back_iff {contact : Contact} (named : contact.name ≠ "") :
    ∃ attributes, ofState (contactState contact) = .ok attributes ∧
      attributes.email = contact.email ∧
      attributes.comment = (if contact.comment = "" then none else some contact.comment) ∧
      (attributes.name = contact.name ↔ IsNormalName contact.name) ∧
      stateIdentifier (contactState contact) = .ok contact.identifier ∧
      (attributes.identifier = contact.identifier ↔ IsNormalName contact.name) := by
  have name : normalName contact.name = contact.name ↔ IsNormalName contact.name :=
    normalName_eq_self_iff
  refine ⟨_, ofState_contactState contact, rfl, rfl, name, stateIdentifier_contactState named, ?_⟩
  rw [← name, identifier, Contact.identifier, Identifier.mk.injEq]

def contactNamed (name : String) : Contact where
  createdOn := ⟨⟨2024, 5, 1, by decide, by decide, by decide⟩,
    ⟨⟨12, by decide⟩, ⟨0, by decide⟩, ⟨0, by decide⟩, ⟨0, by decide⟩⟩⟩
  name := name
  email := "ops@example.com"
  comment := ""
  owner := "ACCOUNTADMIN"

theorem recorded_contact_reads_back_inner_quotes :
    (contactNamed "on \"call\" \\").name ≠ "" ∧
      ∃ attributes, ofState (contactState (contactNamed "on \"call\" \\")) = .ok attributes ∧
        attributes.name = "on \"call\" \\" := by
  have named : (contactNamed "on \"call\" \\").name ≠ "" := by decide
  rcases recorded_contact_reads_back_iff named with ⟨attributes, decodes, -, -, name, -⟩
  refine ⟨named, attributes, decodes, name.2 (.inr ?_)⟩
  decide

/-- A name with quotes around it loses them, and the state's two identifiers are different ones. -/
theorem quoted_contact_reads_back_unquoted :
    ofState (contactState (contactNamed "\"A\"")) = .ok ⟨"A", "ops@example.com", none⟩ ∧
      stateIdentifier (contactState (contactNamed "\"A\"")) = .ok ⟨"\"A\""⟩ :=
  ⟨rfl, rfl⟩

end ContactAttributes

end AlertContacts
