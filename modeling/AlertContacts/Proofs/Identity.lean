import AlertContacts.Proofs.Execution
import AlertContacts.Proofs.Lookup
import AlertContacts.Proofs.Reading
import AlertContacts.Proofs.Refusal

/-!
# The identity of a contact

A provider hands out the states of contacts: as the result of an operation that reads the contact back,
and with the failure of an update that has renamed it (`HandsOut`). Either way the state is recorded
under the identifier of the contact, and the identifier is read from the state again whatever characters
its name has (`exists_recordedIn_of_handsOut`).

So the identity survives the state (`identity_survives_state`): what a later operation sends first is
about the same contact, and reading the contact again leads to the same state as long as the platform
shows the same rows. Other contacts among the rows, such as those that a wildcard in the name matches,
make no difference.
-/

namespace AlertContacts

open Json

variable {σ τ α β : Type}

/-! ### What later operations send -/

/-- The name that a statement is about; a listing is about the name that it takes as a pattern. -/
def Statement.subject? : Statement → Option String
  | .create options => some options.name.name
  | .alter options => some options.name.name
  | .drop options => some options.name.name
  | .list options => options.like.map Like.pattern
  | .describe options => some options.name.name

/-- Something is sent, and the platform reads the first of it as a statement about a contact. -/
def OpensWith (identifier : Identifier) (sent : List Exchange) : Prop :=
  ∃ exchange ∈ sent.head?, ∃ statement, Statement.ofSql? exchange.sql = some statement ∧
    statement.subject? = some identifier.name

/-- A single statement that breaks no rule is sent when it is attempted. -/
theorem Attempted.sentOnce {limit : Option Nat} {statement : Statement} {sent : List Exchange}
    {succeeded : Bool} (attempted : Attempted limit [statement] sent succeeded)
    (valid : statement.violations = []) : SentOnce statement sent := by
  cases attempted with
  | refused broken => exact absurd valid broken
  | failed _ text _ => exact ⟨_, rfl, text⟩
  | next _ text _ others =>
      cases others
      exact ⟨_, rfl, text⟩

/-- Statements that are sent in order open with the first of them, and so with what it is about. -/
theorem SentInOrder.opensWith {limit : Option Nat} {statement : Statement}
    {statements : List Statement} {sent : List Exchange} {identifier : Identifier}
    (ordered : SentInOrder limit (statement :: statements) sent)
    (valid : statement.violations = []) (about : statement.subject? = some identifier.name) :
    OpensWith identifier sent := by
  rcases ordered.stops with ⟨before, last, parts, -, -⟩
  have texts := ordered.texts
  cases sent with
  | nil => simp at parts
  | cons exchange sent =>
      rw [List.map_cons, List.map_cons, List.cons_prefix_cons] at texts
      refine ⟨exchange, rfl, statement, ?_, about⟩
      rw [texts.1, Statement.ofSql?_sql valid]

namespace ContactProvider

section later

variable (provider : ContactProvider σ) (resourceType : String) (current : Value)
  (session : Session σ)

/-- What is sent to read a state again. -/
def readExchanges : List Exchange :=
  ((provider.recording.read resourceType current).run session.recording).2.client.exchanges

/-- What is sent to delete the contact of a state. -/
def deleteExchanges : List Exchange :=
  ((provider.recording.delete resourceType current).run session.recording).2.client.exchanges

variable {provider resourceType current session} {identifier : Identifier}

/-- Reading a state sends the lookup of its identifier, once. -/
theorem sends_read (recordedAs : stateIdentifier current = .ok identifier) :
    (provider.recording.read contactResourceType current).Sends fun _ sent =>
      SentOnce (ContactsService.lookup identifier) sent := by
  rw [read, recordedAs]
  have reads := provider.sends_readContact (provider.contacts (span "read" contactResourceType))
    identifier
  change (provider.recording.readContact
    (provider.contacts (span "read" contactResourceType)).recording identifier >>= _).Sends _
  refine reads.bind ?_ ?_
  · rintro error sent ⟨looked, -⟩
    exact looked
  · rintro state before ⟨looked, -⟩
    cases state with
    | some state => exact .ofExcept_append looked
    | none => exact .log_bind (.ofExcept_append looked)

/-- Deleting a contact sends the drop of its identifier, once. -/
theorem sends_delete (recordedAs : stateIdentifier current = .ok identifier) :
    (provider.recording.delete contactResourceType current).Sends fun _ sent =>
      SentOnce (.drop { name := identifier }) sent := by
  have valid : (Statement.drop { name := identifier }).violations = [] := by
    simp [Statement.violations, DropContact.violations, Identifier.isValid,
      name_ne_of_stateIdentifier recordedAs]
  have drops := (((provider.contacts (span "delete" contactResourceType)).on "contacts.drop"
    identifier).sends_execute (.drop { name := identifier })).weaken
      fun _ _ attempted => attempted.sentOnce valid
  have bounds := (provider.sends_bounded (fun _ => SentOnce (.drop { name := identifier }))
    drops).weaken fun _ _ facts => facts.1
  have reported := sends_reporting (provider.recording.contacts (span "delete" contactResourceType))
    "Delete failed" identifier bounds
  rw [delete, recordedAs]
  refine reported.bind ?_ ?_
  · intro error sent dropped
    exact dropped
  · intro _ before dropped
    refine .log ?_
    rwa [List.append_nil]

end later

/-! ### States that a provider hands out -/

/-- An operation ends with the state of the contact that it read back under an identifier. -/
inductive Returns (provider : ContactProvider σ) : Identifier → Value → Prop where
  | created {resourceType : String} {planned state : Value} {desired : ContactAttributes}
      {session : Session σ} (desires : ContactAttributes.ofState planned = .ok desired)
      (ends : ((provider.create resourceType planned).run session).1 = .ok state) :
      Returns provider desired.identifier state
  | read {resourceType : String} {current state : Value} {identifier : Identifier}
      {session : Session σ} (recordedAs : stateIdentifier current = .ok identifier)
      (ends : ((provider.read resourceType current).run session).1 = .ok state)
      (present : state ≠ .null) : Returns provider identifier state
  | updated {resourceType : String} {prior planned state : Value} {recorded : Identifier}
      {current desired : ContactAttributes} {session : Session σ}
      (recordedAs : stateIdentifier prior = .ok recorded)
      (currently : ContactAttributes.ofState prior = .ok current)
      (desires : ContactAttributes.ofState planned = .ok desired)
      (ends : ((provider.update resourceType prior planned).run session).1 = .ok state) :
      Returns provider (settledIdentifier recorded current desired) state
  | imported {resourceType id : String} {identifier : Identifier}
      {resources : List ImportedResource} {resource : ImportedResource} {session : Session σ}
      (names : Identifier.parse id = .ok identifier)
      (ends : ((provider.importResource resourceType id).run session).1 = .ok resources)
      (member : resource ∈ resources) : Returns provider identifier resource.state

/-- A state is handed out for a contact, as a result or with the failure of an update. -/
inductive HandsOut (provider : ContactProvider σ) : Identifier → Value → Prop where
  | returned {identifier : Identifier} {state : Value} (returns : provider.Returns identifier state) :
      HandsOut provider identifier state
  | carried {resourceType : String} {prior planned state : Value} {desired : ContactAttributes}
      {cause : ProviderError} {session : Session σ}
      (desires : ContactAttributes.ofState planned = .ok desired)
      (ends : ((provider.update resourceType prior planned).run session).1 =
        .error (.partialUpdate state cause)) :
      HandsOut provider desired.identifier state

variable {provider : ContactProvider σ} {identifier : Identifier} {state : Value}

/-- An operation that ends with a state was about a contact with a name. -/
theorem name_ne_of_executes_create {create : CreateContact} {before after : σ}
    (executes : provider.client.Executes [.create create] before after) : create.name.name ≠ "" := by
  have valid := executes.violations_eq _ (List.mem_singleton_self _)
  simp only [Statement.violations, CreateContact.violations, List.append_eq_nil_iff,
    Violation.unless_eq_nil_iff] at valid
  simpa [Identifier.isValid] using valid.1

/-- The name that executed alterations lead to is not empty, if the one that they start from is not. -/
theorem settledIdentifier_named_of_executes {recorded : Identifier}
    {current desired : ContactAttributes} {before after : σ} (named : recorded.name ≠ "")
    (executes : provider.client.Executes (alterations recorded current desired) before after) :
    (settledIdentifier recorded current desired).name ≠ "" := by
  rw [settledIdentifier]
  split
  · exact named
  · rename_i different
    apply name_ne_of_rename_valid
    apply executes.violations_eq
    rw [alterations_eq, renames_of_ne different]
    exact List.mem_append_left _ (List.mem_singleton_self _)

/-- What an operation ends with is the state of a contact of exactly the name that it was about. -/
theorem exists_of_returns (returns : provider.Returns identifier state) :
    ∃ contact, contactState contact = state ∧ contact.name = identifier.name ∧
      identifier.name ≠ "" := by
  cases returns with
  | created desires ends =>
      rcases exists_of_run_create desires (Prod.ext ends rfl) with
        ⟨middle, contact, rfl, executes, finds⟩
      exact ⟨contact, rfl, finds.name_eq, name_ne_of_executes_create executes⟩
  | read recordedAs ends present =>
      rcases finds_of_run_read recordedAs present (Prod.ext ends rfl) with ⟨contact, rfl, finds⟩
      exact ⟨contact, rfl, finds.name_eq, name_ne_of_stateIdentifier recordedAs⟩
  | updated recordedAs currently desires ends =>
      rcases exists_of_run_update recordedAs currently desires (Prod.ext ends rfl) with
        ⟨middle, contact, rfl, executes, finds⟩
      have named := name_ne_of_stateIdentifier recordedAs
      exact ⟨contact, rfl, finds.name_eq, settledIdentifier_named_of_executes named executes⟩
  | imported names ends member =>
      rcases finds_of_run_importResource names (Prod.ext ends rfl) with ⟨contact, rfl, finds⟩
      rw [List.mem_singleton.1 member]
      exact ⟨contact, rfl, finds.name_eq, Identifier.name_ne_of_parse names⟩

/-! ### Updates that fail with a state -/

theorem failsPlainly_checkResourceType (resourceType : String) :
    FailsPlainly (checkResourceType resourceType) := by
  rw [checkResourceType]
  split
  · exact .ok ()
  · exact .error rfl

/-- A step that fails plainly does not fail with a state. -/
theorem exists_of_bind_eq_partialUpdate {outcome : Except ProviderError α}
    {next : α → Run (Session σ) ProviderError β} {cause : ProviderError} {session : Session σ}
    (plain : FailsPlainly outcome)
    (ends : ((Run.ofExcept outcome >>= next).run session).1 = .error (.partialUpdate state cause)) :
    ∃ result, outcome = .ok result ∧
      ((next result).run session).1 = .error (.partialUpdate state cause) := by
  cases outcome with
  | error error =>
      cases ends
      cases plain _ rfl
  | ok result => exact ⟨result, rfl, ends⟩

/-- An update that fails with a state has decoded its own states. -/
theorem decodes_of_partialUpdate {resourceType : String} {prior planned : Value}
    {cause : ProviderError} {session : Session σ}
    (ends : ((provider.update resourceType prior planned).run session).1 =
      .error (.partialUpdate state cause)) :
    ∃ recorded current desired, stateIdentifier prior = .ok recorded ∧
      ContactAttributes.ofState prior = .ok current ∧
        ContactAttributes.ofState planned = .ok desired := by
  rw [update_eq] at ends
  rcases exists_of_bind_eq_partialUpdate (failsPlainly_checkResourceType _) ends with ⟨_, -, ends⟩
  rcases exists_of_bind_eq_partialUpdate (FailsInvalid.stateIdentifier _).failsPlainly ends with
    ⟨recorded, recordedAs, ends⟩
  rcases exists_of_bind_eq_partialUpdate (FailsInvalid.ofState _).failsPlainly ends with
    ⟨current, currently, ends⟩
  rcases exists_of_bind_eq_partialUpdate (FailsInvalid.ofState _).failsPlainly ends with
    ⟨desired, desires, -⟩
  exact ⟨recorded, current, desired, recordedAs, currently, desires⟩

/-- The state that a failed update carries is the prior one under the new identifier. -/
theorem exists_of_partialUpdate {resourceType : String} {prior planned : Value}
    {cause : ProviderError} {session : Session σ}
    (fails : ((provider.update resourceType prior planned).run session).1 =
      .error (.partialUpdate state cause)) :
    ∃ written desired, ContactAttributes.decode prior = .ok written ∧
      ContactAttributes.ofState planned = .ok desired ∧ desired.name ≠ "" ∧
        { written with name := desired.name }.RecordedIn state := by
  rcases decodes_of_partialUpdate fails with
    ⟨recorded, current, desired, recordedAs, currently, desires⟩
  have ends := provider.update_ends resourceType recordedAs currently desires session
  rw [fails] at ends
  rcases unsettled_of_partialUpdate ends with ⟨rfl, before, sent, -, attempted, -⟩
  have named : desired.identifier.name ≠ "" := by
    cases attempted with
    | next valid _ _ _ => exact name_ne_of_rename_valid valid
  rcases ContactAttributes.ofState_eq_ok_iff.1 currently with ⟨written, decodes, -⟩
  cases prior with
  | object entries =>
      exact ⟨written, desired, decodes, desires, named,
        recordedIn_renamedState decodes desired.identifier⟩
  | _ => cases recordedAs

/-- It decodes to the prior attributes with the new name, if decoding does not change that name. -/
theorem carried_of_partialUpdate {resourceType : String} {prior planned : Value}
    {current desired : ContactAttributes} {cause : ProviderError} {session : Session σ}
    (currently : ContactAttributes.ofState prior = .ok current)
    (desires : ContactAttributes.ofState planned = .ok desired)
    (stable : ContactAttributes.normalName desired.name = desired.name)
    (fails : ((provider.update resourceType prior planned).run session).1 =
      .error (.partialUpdate state cause)) :
    stateIdentifier state = .ok desired.identifier ∧
      ContactAttributes.ofState state = .ok { current with name := desired.name } := by
  rcases exists_of_partialUpdate fails with ⟨written, _, decodes, desiresAgain, named, recordedIn⟩
  cases desires.symm.trans desiresAgain
  refine ⟨recordedIn.stateIdentifier named, ?_⟩
  rcases ContactAttributes.ofState_eq_ok_iff.1 currently with ⟨_, decodesAgain, rfl⟩
  cases decodes.symm.trans decodesAgain
  rw [recordedIn.ofState, ContactAttributes.normalized, stable]
  rfl

/-- What is handed out is recorded under the contact's identifier. -/
theorem exists_recordedIn_of_handsOut (handed : provider.HandsOut identifier state) :
    ∃ attributes : ContactAttributes, attributes.RecordedIn state ∧
      attributes.identifier = identifier ∧ identifier.name ≠ "" := by
  cases handed with
  | returned returns =>
      rcases exists_of_returns returns with ⟨contact, rfl, same, named⟩
      refine ⟨contact.attributes, recordedIn_contactState contact, ?_, named⟩
      rw [contact.identifier_attributes, Contact.identifier, same]
  | carried desires ends =>
      rcases exists_of_partialUpdate ends with
        ⟨written, desired, -, desiresAgain, named, recorded⟩
      cases desires.symm.trans desiresAgain
      exact ⟨_, recorded, rfl, named⟩

/-! ### Later operations on such a state -/

section later

variable {later : ContactProvider τ} {current planned : Value} {session : Session τ}
  {currently desired : ContactAttributes}

theorem sentOnce_readExchanges (recordedAs : stateIdentifier current = .ok identifier) :
    SentOnce (ContactsService.lookup identifier)
      (later.readExchanges contactResourceType current session) := by
  rcases later.sends_read recordedAs session.recording with ⟨sent, added, looked⟩
  rw [readExchanges, added]
  exact looked

theorem sentOnce_deleteExchanges (recordedAs : stateIdentifier current = .ok identifier) :
    SentOnce (.drop { name := identifier })
      (later.deleteExchanges contactResourceType current session) := by
  rcases later.sends_delete recordedAs session.recording with ⟨sent, added, dropped⟩
  rw [deleteExchanges, added]
  exact dropped

/-- What settles the properties of a contact is about this contact. -/
theorem subject?_of_mem_settles {statement : Statement}
    (member : statement ∈ settles identifier currently desired) :
    statement.subject? = some identifier.name := by
  rcases Statement.mem_forProperties member with rfl | rfl
  · rfl
  · rfl

/-- The first statement of an update is about the identifier that the prior state is recorded under. -/
theorem updateStatements_eq_cons (recorded : Identifier) (current desired : ContactAttributes) :
    ∃ first others, updateStatements recorded current desired = first :: others ∧
      first.subject? = some recorded.name := by
  rw [updateStatements, alterations_eq]
  by_cases same : current.name = desired.name
  · rw [renames, if_pos same, settledIdentifier, if_pos same, List.nil_append]
    cases settled : settles recorded current desired with
    | nil => exact ⟨_, _, rfl, rfl⟩
    | cons first others =>
        have member : first ∈ settles recorded current desired := by
          rw [settled]
          exact List.mem_cons_self ..
        exact ⟨first, _, rfl, subject?_of_mem_settles member⟩
  · rw [renames_of_ne same]
    exact ⟨_, _, rfl, rfl⟩

/-- An update of a state begins with a statement about the contact of the state. -/
theorem opensWith_updateExchanges (recordedAs : stateIdentifier current = .ok identifier)
    (currentlyAs : ContactAttributes.ofState current = .ok currently)
    (desires : ContactAttributes.ofState planned = .ok desired)
    (renamable : ¬(currently.name ≠ desired.name ∧ desired.name = "")) :
    OpensWith identifier (later.updateExchanges contactResourceType current planned session) := by
  have named := name_ne_of_stateIdentifier recordedAs
  have valid := updateStatements_valid named renamable
  have ordered := (later.sentThrough_update session recordedAs currentlyAs desires).sentInOrder
    (alterations_valid named renamable)
  rcases updateStatements_eq_cons identifier currently desired with ⟨first, others, parts, about⟩
  rw [parts] at valid
  rw [updateStatements] at parts
  rw [parts] at ordered
  exact ordered.opensWith (valid first (List.mem_cons_self ..)) about

end later

/-! ### Identity -/

/--
What is handed out is recorded under the identifier of its contact, and every later operation on it is
about that contact; only an update to the empty name sends nothing at all. Reading what was read gives the
same state again, if the client answers with the same rows.
-/
theorem identity_survives_state (handed : provider.HandsOut identifier state) :
    stateIdentifier state = .ok identifier ∧
      state.get? "name" = some (.string identifier.name) ∧
      (∀ {τ : Type} (later : ContactProvider τ) (session : Session τ),
        SentOnce (ContactsService.lookup identifier)
            (later.readExchanges contactResourceType state session) ∧
          SentOnce (.drop { name := identifier })
            (later.deleteExchanges contactResourceType state session) ∧
          ∀ planned desired, ContactAttributes.ofState planned = .ok desired →
            ∃ current, ContactAttributes.ofState state = .ok current ∧
              (¬(current.name ≠ desired.name ∧ desired.name = "") →
                OpensWith identifier
                  (later.updateExchanges contactResourceType state planned session))) ∧
      ∀ current session rows, stateIdentifier current = .ok identifier →
        ((provider.read contactResourceType current).run session).1 = .ok state →
          provider.client.Answers provider.config.limit? identifier rows session.client →
            ∀ {τ : Type} (later : ContactProvider τ) (again : Session τ),
              later.client.Answers later.config.limit? identifier rows again.client →
                ((later.read contactResourceType state).run again).1 = .ok state := by
  rcases exists_recordedIn_of_handsOut handed with ⟨attributes, recorded, rfl, named⟩
  have recordedAs := recorded.stateIdentifier named
  refine ⟨recordedAs, recorded.get?_name, ?_, ?_⟩
  · intro τ later session
    refine ⟨sentOnce_readExchanges recordedAs, sentOnce_deleteExchanges recordedAs, ?_⟩
    intro planned desired desires
    refine ⟨_, recorded.ofState, ?_⟩
    intro renamable
    exact opensWith_updateExchanges recordedAs recorded.ofState desires renamable
  · intro current session rows currentlyAs reads answers τ later again answersAgain
    have present := recorded.ne_null
    rcases (read_eq_ok_iff currentlyAs present).1 reads with ⟨_, contact, answered, found, made⟩
    cases answered.rows_eq answers
    exact (read_eq_ok_iff recordedAs present).2 ⟨rows, contact, answersAgain, found, made⟩

/-- The contact named `"A"`, with its quotes. -/
def quotedState : Value :=
  contactState (ContactAttributes.contactNamed "\"A\"")

def quotedRows : List Row :=
  [Script.showRow "A" "a@example.com" none, Script.showRow "\"A\"" "ops@example.com" none]

def quotedSession : Session Script :=
  ⟨{ queryAnswers := [.ok quotedRows] }, []⟩

theorem identity_survives_state_quoted :
    scripted.HandsOut ⟨"\"A\""⟩ quotedState ∧ stateIdentifier quotedState = .ok ⟨"\"A\""⟩ ∧
      quotedState.get? "name" = some (.string "\"A\"") ∧
      SentOnce (ContactsService.lookup ⟨"\"A\""⟩)
        (scripted.readExchanges contactResourceType quotedState quotedSession) ∧
      ((scripted.read contactResourceType quotedState).run quotedSession).1 = .ok quotedState := by
  have recordedAs : stateIdentifier quotedState = .ok ⟨"\"A\""⟩ := rfl
  have reads : ((scripted.read contactResourceType quotedState).run quotedSession).1 =
      .ok quotedState := rfl
  have answers : scripted.client.Answers scripted.config.limit? ⟨"\"A\""⟩ quotedRows
      quotedSession.client := ⟨rfl, fun _ _ => Nat.zero_le _⟩
  have handed : scripted.HandsOut ⟨"\"A\""⟩ quotedState :=
    .returned (.read recordedAs reads (recordedIn_contactState _).ne_null)
  rcases identity_survives_state handed with ⟨identifies, name, later, again⟩
  exact ⟨handed, identifies, name, (later scripted quotedSession).1,
    again _ _ _ recordedAs reads answers scripted quotedSession answers⟩

end ContactProvider

end AlertContacts
