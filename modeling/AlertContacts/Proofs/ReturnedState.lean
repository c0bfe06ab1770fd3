import AlertContacts.Proofs.Configuration

/-!
# Returned states

Create, read, update and import end with the state of a contact that the client has shown in answer to a
lookup. The shape of such a state is given three times: by the schema, by the function that writes the
state, and by the columns of the row that it comes from. `WellFormedState` says that they agree, and that
the state would be accepted as a configuration; `ContactProvider.returned_states_well_formed` says so of
every state that the four operations end with, whatever the client answers.

The schema and the state are compared type by type (`describes_contactState`). The name is not empty
because no operation gets as far as looking up an empty name.
-/

namespace AlertContacts

open Json

variable {σ : Type}

/-- The platform reports no comment: the column is not there, is null, or is empty. -/
def Row.ReportsNoComment (row : Row) : Prop :=
  row.find? "comment" = none ∨ row.find? "comment" = some .null ∨
    row.find? "comment" = some (.string "")

/-- A contact is without a comment exactly if its row reports none. -/
theorem ShowRow.FoundIn.comment_ofRow_eq_empty_iff {shown : ShowRow} {row : Row}
    (found : shown.FoundIn row) : (Contact.ofRow shown).comment = "" ↔ row.ReportsNoComment := by
  rw [Contact.ofRow, Row.ReportsNoComment]
  rcases ContactAttributes.optionalString_eq_ok_iff.1 found.comment with
    ⟨absent | null, without⟩ | ⟨text, written, given⟩
  · simp [absent, without]
  · simp [null, without]
  · simp [written, given]

/-! ### The shape of a contact's state -/

/-- The row in a state is of the type that the schema declares for it. -/
theorem describes_showOutput (contact : Contact) :
    showOutputType.Describes (showOutput contact) := by
  refine .object (Entries.names_ofList_congr rfl) ?_
  intro field declared value found
  have type : field.2 = .string := by
    have member := Entries.mem_ofList declared
    simp only [List.mem_cons, List.not_mem_nil, or_false] at member
    rcases member with rfl | rfl | rfl | rfl | rfl <;> rfl
  have text : ∃ text, value = .string text := by
    have written := Entries.mem_ofList (Entries.mem_of_find?_eq_some found)
    simp only [List.mem_cons, List.not_mem_nil, or_false, Prod.mk.injEq] at written
    rcases written with ⟨-, rfl⟩ | ⟨-, rfl⟩ | ⟨-, rfl⟩ | ⟨-, rfl⟩ | ⟨-, rfl⟩ <;> exact ⟨_, rfl⟩
  rcases text with ⟨text, rfl⟩
  rw [type]
  exact .string text

/-- The state of a contact has exactly the declared attributes, each with a value of its type. -/
theorem describes_contactState (contact : Contact) :
    ∃ entries, contactState contact = .object entries ∧ contactSchema.Describes entries := by
  refine ⟨_, rfl, Entries.names_ofList_congr rfl, ?_⟩
  intro declared declaredMember value found
  have member := Entries.mem_ofList declaredMember
  have written := Entries.mem_ofList (Entries.mem_of_find?_eq_some found)
  simp only [List.mem_cons, List.not_mem_nil, or_false] at member
  -- One case for each attribute; the other entries of the state have other names.
  rcases member with rfl | rfl | rfl | rfl | rfl | rfl
  all_goals
    simp only [List.mem_cons, List.not_mem_nil, or_false, Prod.mk.injEq, idAttribute,
      fullyQualifiedNameAttribute, showOutputAttribute, String.reduceEq, false_and, true_and,
      false_or] at written
    subst value
  · exact .inl (.string _)
  · exact .inl (.string _)
  · exact .inl (.string _)
  · split
    · exact .inr ⟨rfl, rfl, rfl⟩
    · exact .inl (.string _)
  · exact .inl (.string _)
  · refine .inl (.list ?_)
    intro row shown
    cases List.mem_singleton.1 shown
    exact describes_showOutput contact

/-- The state of a contact with a name would be accepted as a configuration. -/
theorem contactDiagnostics_contactState {contact : Contact} (named : contact.name ≠ "") :
    ContactProvider.contactDiagnostics (contactState contact) = [] := by
  rcases describes_contactState contact with ⟨entries, same, describes⟩
  have name := (recordedIn_contactState contact).get?_name
  rw [ContactProvider.contactDiagnostics, name, same, Schema.validate_eq_nil_of_describes describes]
  have valid : (Identifier.mk contact.name).isValid = true := by simpa [Identifier.isValid] using named
  simp [Value.text?, Contact.attributes, valid]

/-! ### Well-formed states -/

/-- A state is a well-formed state of the contact that was looked up and that a row describes. -/
structure WellFormedState (identifier : Identifier) (row : Row) (state : Value) : Prop where
  described : ∃ entries, state = .object entries ∧ contactSchema.Describes entries
  id : state.get? idAttribute = some (.string identifier.sql)
  fullyQualifiedName : state.get? fullyQualifiedNameAttribute = some (.string identifier.sql)
  name : state.get? "name" = some (.string identifier.name)
  named : identifier.name ≠ ""
  comment : state.get? "comment" = some .null ↔ row.ReportsNoComment
  accepted : ∀ {τ : Type} (session : Session τ),
    ((ContactProvider.validateResourceConfig contactResourceType state).run session).1 = .ok []

/-- The state that is made of a row of exactly the name is well formed. -/
theorem wellFormedState_ofRow {identifier : Identifier} {row : Row} {shown : ShowRow}
    (decodes : ShowRow.decode (.object row) = .ok shown) (exactly : shown.name = identifier.name)
    (named : identifier.name ≠ "") :
    WellFormedState identifier row (contactState (Contact.ofRow shown)) := by
  have found := ShowRow.foundIn_of_decode decodes
  have same : (Contact.ofRow shown).attributes.identifier = identifier := by
    rcases identifier with ⟨name⟩
    cases exactly
    rfl
  have recorded := recordedIn_contactState (Contact.ofRow shown)
  constructor
  · exact describes_contactState _
  · rw [recorded.id, same]
  · rw [recorded.fullyQualifiedName, same]
  · rw [recorded.get?_name, ← exactly]
    rfl
  · exact named
  · rw [(get?_contactState _).2.2, ← found.comment_ofRow_eq_empty_iff]
    by_cases empty : (Contact.ofRow shown).comment = ""
    · simp [empty]
    · simp [empty]
  · intro τ session
    rw [ContactProvider.outcome_validateResourceConfig, contactDiagnostics_contactState]
    rwa [← exactly] at named

namespace ContactProvider

/--
The last thing that the client was asked is the lookup of a contact, and the state is a well-formed one of
a row of exactly that name in the answer.
-/
def ReadsBack (provider : ContactProvider σ) (identifier : Identifier) (state : Value)
    (after : Session σ) : Prop :=
  ∃ before rows row, provider.client.Lists (ContactsService.lookup identifier) rows before after.client ∧
    row ∈ rows ∧ row.find? "name" = some (.string identifier.name) ∧
      WellFormedState identifier row state

variable {provider : ContactProvider σ} {identifier : Identifier} {contact : Contact} {before : σ}
  {session after : Session σ}

/-- A state that is made of what a lookup found is read back from its answer. -/
theorem readsBack_of_finds (finds : provider.client.Finds identifier contact before after.client)
    (named : identifier.name ≠ "") : provider.ReadsBack identifier (contactState contact) after := by
  rcases finds with ⟨lists, member, decodes, exactly⟩
  have name := (ShowRow.foundIn_of_decode decodes).name
  rw [exactly] at name
  exact ⟨_, _, _, lists, member, name, wellFormedState_ofRow decodes exactly named⟩

/--
Whatever a client answers, a state that create, read, update or import ends with is a well-formed state of
the contact that the operation is about. Reading may also end with null, for a contact that is gone.
-/
theorem returned_states_well_formed (provider : ContactProvider σ) (resourceType : String)
    (session after : Session σ) :
    (∀ planned state, (provider.create resourceType planned).run session = (.ok state, after) →
      ∃ desired, ContactAttributes.ofState planned = .ok desired ∧
        provider.ReadsBack desired.identifier state after) ∧
    (∀ current state, (provider.read resourceType current).run session = (.ok state, after) →
      state ≠ .null →
        ∃ recorded, stateIdentifier current = .ok recorded ∧
          provider.ReadsBack recorded state after) ∧
    (∀ prior planned state,
      (provider.update resourceType prior planned).run session = (.ok state, after) →
        ∃ recorded current desired, stateIdentifier prior = .ok recorded ∧
          ContactAttributes.ofState prior = .ok current ∧
          ContactAttributes.ofState planned = .ok desired ∧
            provider.ReadsBack (settledIdentifier recorded current desired) state after) ∧
    ∀ id resources, (provider.importResource resourceType id).run session = (.ok resources, after) →
      ∃ identifier state, Identifier.parse id = .ok identifier ∧
        resources = [⟨contactResourceType, state⟩] ∧ provider.ReadsBack identifier state after := by
  -- An empty name is refused by the statement in front of the lookup, or when the identifier is parsed.
  refine ⟨?_, ?_, ?_, ?_⟩
  · intro planned state succeeds
    rcases Run.exists_of_run_ofExcept_bind succeeds with ⟨_, -, decodes⟩
    rcases Run.exists_of_run_ofExcept_bind decodes with ⟨desired, desires, -⟩
    rcases exists_of_run_create desires succeeds with ⟨middle, contact, rfl, executes, finds⟩
    exact ⟨desired, desires, readsBack_of_finds finds (name_ne_of_executes_create executes)⟩
  · intro current state succeeds present
    rcases Run.exists_of_run_ofExcept_bind succeeds with ⟨_, -, decodes⟩
    rcases Run.exists_of_run_ofExcept_bind decodes with ⟨recorded, recordedAs, -⟩
    rcases finds_of_run_read recordedAs present succeeds with ⟨contact, rfl, finds⟩
    exact ⟨recorded, recordedAs, readsBack_of_finds finds (name_ne_of_stateIdentifier recordedAs)⟩
  · intro prior planned state succeeds
    have decodes := succeeds
    rw [update_eq] at decodes
    rcases Run.exists_of_run_ofExcept_bind decodes with ⟨_, -, decodes⟩
    rcases Run.exists_of_run_ofExcept_bind decodes with ⟨recorded, recordedAs, decodes⟩
    rcases Run.exists_of_run_ofExcept_bind decodes with ⟨current, currently, decodes⟩
    rcases Run.exists_of_run_ofExcept_bind decodes with ⟨desired, desires, -⟩
    rcases exists_of_run_update recordedAs currently desires succeeds with
      ⟨middle, contact, rfl, executes, finds⟩
    have named := settledIdentifier_named_of_executes (name_ne_of_stateIdentifier recordedAs) executes
    exact ⟨recorded, current, desired, recordedAs, currently, desires, readsBack_of_finds finds named⟩
  · intro id resources succeeds
    rcases Run.exists_of_run_ofExcept_bind succeeds with ⟨_, -, decodes⟩
    rcases Run.exists_of_run_ofExcept_bind decodes with ⟨identifier, parses, -⟩
    have names := mapError_eq_ok_iff.1 parses
    rcases finds_of_run_importResource names succeeds with ⟨contact, rfl, finds⟩
    exact ⟨identifier, _, names, rfl, readsBack_of_finds finds (Identifier.name_ne_of_parse names)⟩

/-- The platform shows another contact first, and the one in question with an empty comment. -/
def emptyCommentSession : Session Script :=
  ⟨{ queryAnswers := [.ok [Script.showRow "OPS" "ops@example.com" (some "page first"),
      Script.showRow "ONCALL" "ops@example.com" (some "")]] }, []⟩

/-- Where renaming and changing the contact ends. -/
def renamedSession : Session Script :=
  ((scripted.update contactResourceType opsState oncallState).run emptyCommentSession).2

theorem returned_states_well_formed_renamed :
    ∃ state, (scripted.update contactResourceType opsState oncallState).run emptyCommentSession =
        (.ok state, renamedSession) ∧
      state.get? "comment" = some .null ∧ scripted.ReadsBack ⟨"ONCALL"⟩ state renamedSession := by
  have succeeds : (scripted.update contactResourceType opsState oncallState).run
      emptyCommentSession = (.ok _, renamedSession) := rfl
  rcases returned_states_well_formed scripted contactResourceType emptyCommentSession renamedSession with
    ⟨-, -, updates, -⟩
  rcases updates _ _ _ succeeds with ⟨_, _, _, recordedAs, currently, desires, readsBack⟩
  cases recordedAs
  cases currently
  cases desires
  exact ⟨_, succeeds, rfl, readsBack⟩

end ContactProvider

end AlertContacts
