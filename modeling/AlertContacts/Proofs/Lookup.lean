import AlertContacts.Proofs.ContactState
import AlertContacts.Proofs.Provider

/-!
# Lookups

What a lookup by name comes to depends on the answer to its one statement alone: on the rows, and on
whether they came in time (`Client.Answers`). All of the rows have to decode, and the first contact of
exactly the name is the one that is found (`Identifier.among`), whatever else the pattern matches.

The span that a lookup runs in and the events that it emits make no difference, so two lookups with the
same rows find the same contact. Reading a state again ends as its lookup says
(`ContactProvider.outcome_read`), so it ends with the state of a contact exactly where the rows hold one
(`ContactProvider.read_eq_ok_iff`).
-/

namespace AlertContacts

open Json

variable {σ α β τ ε ε' : Type}

theorem bind_mapError (first : Except ε α) (next : α → Except ε β) (change : ε → ε') :
    (first.mapError change >>= fun result => (next result).mapError change) =
      (first >>= next).mapError change := by
  cases first with
  | error error => rfl
  | ok result => rfl

/-- A run ends as its first part does, if its second part ends the same way from every state. -/
theorem Run.outcome_bind {first : Run τ ε α} {next : α → Run τ ε β} (ends : α → Except ε β)
    (continues : ∀ result after, ((next result).run after).1 = ends result) (before : τ) :
    ((first >>= next).run before).1 = (first.run before).1 >>= ends := by
  rw [run_bind]
  cases first.run before with
  | mk outcome after =>
      cases outcome with
      | error error => rfl
      | ok result => exact continues result after

/-! ### Rows -/

namespace ShowRow

/-- The columns of a row that tell the properties of a contact. -/
structure FoundIn (shown : ShowRow) (row : Row) : Prop where
  name : row.find? "name" = some (.string shown.name)
  email : row.find? "email" = some (.string shown.email)
  comment : (row.find? "comment").elim (.ok none) (Decoder.optional Decoder.string) =
    .ok shown.comment

variable {shown : ShowRow} {row : Row}

/-- A row that decodes shows what it has in its columns. -/
theorem foundIn_of_decode (decodes : decode (.object row) = .ok shown) : shown.FoundIn row := by
  have made : record.ofEntries row = .ok shown := (Record.decoder_object_iff.1 decodes).2
  simp only [record, Record.ofEntries_and, Record.ofEntries_required, Record.ofEntries_optional,
    ContactAttributes.string_eq_ok_iff] at made
  rcases made with ⟨_, _, ⟨_, _, ⟨_, _, ⟨_, _, ⟨_, _, made, -, rfl⟩, ⟨_, name, rfl⟩, rfl⟩,
    ⟨_, email, rfl⟩, rfl⟩, comment, rfl⟩, -, rfl⟩
  cases made
  exact ⟨name, email, comment⟩

theorem FoundIn.text?_comment (found : shown.FoundIn row) :
    (row.find? "comment").bind Value.text? = shown.comment := by
  rcases ContactAttributes.optionalString_eq_ok_iff.1 found.comment with
    ⟨absent | null, without⟩ | ⟨text, written, given⟩
  · simp [absent, without]
  · simp [null, without, Value.text?]
  · simp [written, given, Value.text?]

end ShowRow

/-- The contacts of rows, all of which have to decode. -/
def Contact.ofRows (rows : List Row) : Except ServiceError (List Contact) :=
  ((rows.mapM fun row => ShowRow.decode (.object row)).mapError .rowMapping).map
    (·.map Contact.ofRow)

/-- The first contact of exactly the name. -/
def Identifier.select (identifier : Identifier) (contacts : List Contact) :
    Except ServiceError Contact :=
  match contacts.find? (·.name = identifier.name) with
  | some contact => .ok contact
  | none => .error (.objectNotFound identifier.sql)

/-- The contact of exactly the name among rows. -/
def Identifier.among (identifier : Identifier) (rows : List Row) : Except ServiceError Contact :=
  Contact.ofRows rows >>= identifier.select

/-- A client answers a lookup with rows, within a limit. -/
structure Client.Answers (client : Client σ) (limit : Option Nat) (identifier : Identifier)
    (rows : List Row) (state : σ) : Prop where
  listed : (client.query (ContactsService.lookup identifier).sql state).1.result = .ok rows
  inTime : ∀ bound ∈ limit,
    (client.query (ContactsService.lookup identifier).sql state).1.elapsed ≤ bound

/-- A client gives one answer to a lookup. -/
theorem Client.Answers.rows_eq {client : Client σ} {limit : Option Nat} {identifier : Identifier}
    {rows others : List Row} {state : σ} (answers : client.Answers limit identifier rows state)
    (again : client.Answers limit identifier others state) : rows = others := by
  have same := answers.listed.symm.trans again.listed
  cases same
  rfl

namespace ContactsService

/-- What an operation gets from an answer, which has to come in time. -/
def accept (service : ContactsService σ) (reply : Reply α) : Except Failure α :=
  if service.isOverdue reply.elapsed then .error .interrupted
  else reply.result.mapError fun error => .failed (.client error)

/-- An answer is accepted if it is a success and in time. -/
theorem accept_eq_ok_iff {service : ContactsService σ} {reply : Reply α} {result : α} :
    service.accept reply = .ok result ↔
      reply.result = .ok result ∧ ∀ bound ∈ service.limit, reply.elapsed ≤ bound := by
  rw [← isOverdue_eq_false_iff, accept]
  cases service.isOverdue reply.elapsed with
  | true => simp
  | false => simp [mapError_eq_ok_iff]

/-- A late answer is given up before anything is made of it. -/
theorem accept_bind (service : ContactsService σ) (reply : Reply α)
    (next : α → Except ServiceError β) :
    (service.accept reply >>= fun result => (next result).mapError .failed) =
      if service.isOverdue reply.elapsed then .error .interrupted
      else (reply.result.mapError .client >>= next).mapError .failed := by
  rw [accept]
  cases service.isOverdue reply.elapsed with
  | true => rfl
  | false =>
      cases reply.result with
      | error error => rfl
      | ok result => rfl

theorem run_prepare_of_valid (service : ContactsService σ) {statement : Statement}
    (valid : statement.violations = []) (session : Session σ) :
    ∃ events, (service.prepare statement).run session =
      (.ok statement.sql, ⟨session.client, events⟩) := by
  rw [prepare, Statement.checkedSql_of_valid valid]
  exact ⟨_, rfl⟩

/-- An operation with rows ends with what they decode to, if they come in time and all of them decode. -/
theorem outcome_fetch (service : ContactsService σ) {statement : Statement}
    (valid : statement.violations = []) (decode : Decoder α) (session : Session σ) :
    ((service.fetch statement decode).run session).1 =
      service.accept (service.client.query statement.sql session.client).1 >>= fun rows =>
        (rows.mapM fun row => decode (.object row)).mapError fun error =>
          .failed (.rowMapping error) := by
  rcases service.run_prepare_of_valid valid session with ⟨events, prepared⟩
  rw [fetch, Run.run_bind, prepared]
  apply Run.outcome_bind
  intro rows after
  rfl

theorem outcome_fetch_map (service : ContactsService σ) {statement : Statement}
    (valid : statement.violations = []) (decode : Decoder α) (function : α → β)
    (session : Session σ) :
    ((service.fetch statement decode >>= fun rows => pure (rows.map function)).run session).1 =
      service.accept (service.client.query statement.sql session.client).1 >>= fun rows =>
        (((rows.mapM fun row => decode (.object row)).mapError .rowMapping).map
          (·.map function)).mapError .failed := by
  rw [Run.outcome_bind (fun rows => .ok (rows.map function)) (fun _ _ => rfl),
    service.outcome_fetch valid, bind_assoc]
  apply bind_congr
  intro rows
  cases rows.mapM fun row => decode (.object row) with
  | error error => rfl
  | ok decoded => rfl

/-- What is asked is the same in every span. -/
theorem outcome_show (service : ContactsService σ) (request : ShowContacts) (session : Session σ) :
    ((service.show request).run session).1 =
      service.accept (service.client.query (Statement.list request).sql session.client).1 >>=
        fun rows => (Contact.ofRows rows).mapError .failed :=
  (service.inside ⟨"contacts.show", []⟩).outcome_fetch_map rfl ShowRow.decode Contact.ofRow session

/-- What a lookup by name makes of the answer to its statement. -/
def lookedUp (service : ContactsService σ) (identifier : Identifier) (client : σ) :
    Except Failure Contact :=
  service.accept (service.client.query (lookup identifier).sql client).1 >>= fun rows =>
    (identifier.among rows).mapError .failed

/-- A lookup finds a contact if the client answers with rows in which it is the one of the name. -/
theorem lookedUp_eq_ok_iff {service : ContactsService σ} {identifier : Identifier} {client : σ}
    {contact : Contact} :
    service.lookedUp identifier client = .ok contact ↔
      ∃ rows, service.client.Answers service.limit identifier rows client ∧
        identifier.among rows = .ok contact := by
  simp only [lookedUp, bind_eq_ok_iff, accept_eq_ok_iff, mapError_eq_ok_iff]
  constructor
  · rintro ⟨rows, ⟨listed, inTime⟩, found⟩
    exact ⟨rows, ⟨listed, inTime⟩, found⟩
  · rintro ⟨rows, ⟨listed, inTime⟩, found⟩
    exact ⟨rows, ⟨listed, inTime⟩, found⟩

/-- A lookup ends with what the answer to its one statement says. -/
theorem outcome_showById (service : ContactsService σ) (identifier : Identifier)
    (session : Session σ) :
    ((service.showById identifier).run session).1 = service.lookedUp identifier session.client := by
  have shown := (service.on "contacts.show_by_id" identifier).outcome_show
    { like := some ⟨identifier.name⟩ } session
  rw [showById, Run.outcome_bind (fun contacts => (identifier.select contacts).mapError .failed)]
  · rw [shown, bind_assoc]
    apply bind_congr
    intro rows
    exact bind_mapError _ _ _
  · intro contacts after
    rw [Identifier.select]
    cases contacts.find? (·.name = identifier.name) with
    | none => rfl
    | some contact => rfl

/-- The span makes no difference, so the safe lookup differs in how it ends alone. -/
theorem outcome_showByIdSafely (service : ContactsService σ) (identifier : Identifier)
    (session : Session σ) :
    ((service.showByIdSafely identifier).run session).1 =
      match service.lookedUp identifier session.client with
      | .ok contact => .ok (some contact)
      | .error failure => if failure.isObjectNotFound then .ok none else .error failure := by
  have same : ((((service.on "contacts.show_by_id_safely" identifier).showById identifier).run
      session).1 = service.lookedUp identifier session.client) := outcome_showById _ _ _
  rw [← same, showByIdSafely, Run.run_recover, Run.run_map]
  cases ((service.on "contacts.show_by_id_safely" identifier).showById identifier).run session with
  | mk outcome after =>
      cases outcome with
      | ok contact => rfl
      | error failure =>
          cases missing : failure.isObjectNotFound with
          | true => simp [missing]
          | false => simp [missing]

end ContactsService

/-! ### Reading a state again -/

namespace ContactProvider

variable (provider : ContactProvider σ)

/-- What a host is told of a failure. -/
def reported : Failure → ProviderError
  | .failed error => .ofService error
  | .interrupted => provider.deadlineExceeded

/-- A host is told of a failure in the words of the provider, and of a result as it is. -/
theorem outcome_bounded (operation : Run (Session σ) Failure α) (session : Session σ) :
    ((provider.bounded operation).run session).1 =
      (operation.run session).1.mapError provider.reported := by
  rw [bounded, Run.run_recover]
  cases operation.run session with
  | mk outcome after => rcases outcome with (error | _) | result <;> rfl

/-- Reading a contact ends as the safe lookup does, with the state in place of the contact. -/
theorem outcome_readContact (contacts : ContactsService σ) (identifier : Identifier)
    (session : Session σ) :
    ((provider.readContact contacts identifier).run session).1 =
      (((contacts.showByIdSafely identifier).run session).1.mapError provider.reported).map
        (·.map contactState) := by
  rw [readContact, Run.outcome_bind (fun contact => .ok (contact.map contactState))
    (fun _ _ => rfl), outcome_bounded]
  cases ((contacts.showByIdSafely identifier).run session).1 with
  | error failure => rfl
  | ok contact => rfl

/-- How reading ends, by what the lookup makes of the answer. -/
def readOutcome : Except Failure Contact → Except ProviderError Value
  | .ok contact => .ok (contactState contact)
  | .error failure =>
    if failure.isObjectNotFound then .ok .null else .error (provider.reported failure)

variable {provider} {session : Session σ} {identifier : Identifier} {current state : Value}

/-- Whatever the span that the lookup happens in. -/
theorem outcome_read (recordedAs : stateIdentifier current = .ok identifier) (around : Span) :
    ((provider.read contactResourceType current).run session).1 =
      provider.readOutcome ((provider.contacts around).lookedUp identifier session.client) := by
  have shown := (provider.contacts (span "read" contactResourceType)).outcome_showByIdSafely
    identifier session
  change _ = match (provider.contacts around).lookedUp identifier session.client with
    | .ok contact => _
    | .error failure => _ at shown
  rw [read, recordedAs]
  change ((provider.readContact (provider.contacts _) identifier >>= _).run session).1 = _
  rw [Run.outcome_bind (fun state => .ok (state.getD .null)), outcome_readContact, shown]
  · cases (provider.contacts around).lookedUp identifier session.client with
    | ok contact => rfl
    | error failure =>
        simp only [readOutcome]
        split <;> rfl
  · rintro (_ | state) after
    · rfl
    · rfl

/-- Reading a state again ends with a state exactly where the rows hold the contact of that state. -/
theorem read_eq_ok_iff (recordedAs : stateIdentifier current = .ok identifier)
    (present : state ≠ .null) :
    ((provider.read contactResourceType current).run session).1 = .ok state ↔
      ∃ rows contact,
        provider.client.Answers provider.config.limit? identifier rows session.client ∧
          identifier.among rows = .ok contact ∧ contactState contact = state := by
  have found : ((provider.read contactResourceType current).run session).1 = .ok state ↔
      ∃ contact, (provider.contacts (span "read" contactResourceType)).lookedUp identifier
        session.client = .ok contact ∧ contactState contact = state := by
    rw [outcome_read recordedAs (span "read" contactResourceType)]
    cases (provider.contacts _).lookedUp identifier session.client with
    | ok contact => simp [readOutcome]
    | error failure =>
        simp only [readOutcome]
        split <;> simp [present.symm]
  rw [found]
  constructor
  · rintro ⟨contact, looked, made⟩
    rcases ContactsService.lookedUp_eq_ok_iff.1 looked with ⟨rows, answered, among⟩
    exact ⟨rows, contact, answered, among, made⟩
  · rintro ⟨rows, contact, answered, among, made⟩
    exact ⟨contact, ContactsService.lookedUp_eq_ok_iff.2 ⟨rows, answered, among⟩, made⟩

end ContactProvider

end AlertContacts
