import AlertContacts.Proofs.UpdateOrder

/-!
# What success takes

An operation that ends with a result went through all of its steps, and each of them succeeded. So the
client's state at the end is the one that it was led to by the statements of the operation:
`Client.Executes` says so of statements without rows, `Client.Lists` of a statement with rows. An update
that ends with a state executed every alteration that its states ask for, and the state is that of a
contact of exactly the new name, decoded from a row that the client listed behind them
(`ContactProvider.exists_of_run_update`).
-/

namespace AlertContacts

open Json

variable {σ τ ε ε' α β : Type}

namespace Run

/-- A sequence that succeeds went through both of its parts. -/
theorem exists_of_run_bind {first : Run τ ε α} {next : α → Run τ ε β} {before after : τ}
    {result : β} (succeeds : (first >>= next).run before = (.ok result, after)) :
    ∃ value middle, first.run before = (.ok value, middle) ∧
      (next value).run middle = (.ok result, after) := by
  rw [run_bind] at succeeds
  split at succeeds
  · rename_i value middle ran
    exact ⟨value, middle, ran, succeeds⟩
  · cases succeeds

/-- A check in front of a run that succeeds has passed, and left the state alone. -/
theorem exists_of_run_ofExcept_bind {outcome : Except ε α} {next : α → Run τ ε β} {before after : τ}
    {result : β} (succeeds : (ofExcept outcome >>= next).run before = (.ok result, after)) :
    ∃ value, outcome = .ok value ∧ (next value).run before = (.ok result, after) := by
  rcases exists_of_run_bind succeeds with ⟨value, middle, ran, continues⟩
  rcases Prod.mk.inj ran with ⟨decoded, rfl⟩
  exact ⟨value, decoded, continues⟩

/-- A run that succeeds with a handler behind it succeeded itself, or its handler did. -/
theorem run_of_run_recover {first : Run τ ε α} {handle : ε → Run τ ε' α} {before after : τ}
    {result : α} (succeeds : (first.recover handle).run before = (.ok result, after)) :
    first.run before = (.ok result, after) ∨
      ∃ error middle, first.run before = (.error error, middle) ∧
        (handle error).run middle = (.ok result, after) := by
  rw [run_recover] at succeeds
  split at succeeds
  · rename_i value middle ran
    cases succeeds
    exact .inl ran
  · rename_i error middle ran
    exact .inr ⟨error, middle, ran, succeeds⟩

end Run

/-! ### Clients -/

namespace Client

variable (client : Client σ)

/-- A client executes statements one after the other, and answers each of them with success. -/
inductive Executes : List Statement → σ → σ → Prop where
  | done {state : σ} : Executes [] state state
  | next {statement : Statement} {statements : List Statement} {before middle after : σ}
      {reply : Reply Unit} (valid : statement.violations = [])
      (answers : client.exec statement.sql before = (reply, middle))
      (succeeds : reply.result = .ok ()) (others : Executes statements middle after) :
      Executes (statement :: statements) before after

/-- A client answers a statement with rows. -/
def Lists (statement : Statement) (rows : List Row) (before after : σ) : Prop :=
  ∃ reply, client.query statement.sql before = (reply, after) ∧ reply.result = .ok rows

/-- A client answers a lookup with rows, and a contact of exactly the name decodes from one of them. -/
inductive Finds (identifier : Identifier) : Contact → σ → σ → Prop where
  | listed {rows : List Row} {row : Row} {shown : ShowRow} {before after : σ}
      (lists : client.Lists (ContactsService.lookup identifier) rows before after)
      (member : row ∈ rows) (decodes : ShowRow.decode (.object row) = .ok shown)
      (named : shown.name = identifier.name) : Finds identifier (Contact.ofRow shown) before after

variable {client} {statements others : List Statement} {before middle after : σ}

theorem Finds.name_eq {identifier : Identifier} {contact : Contact}
    (finds : client.Finds identifier contact before after) : contact.name = identifier.name := by
  cases finds with
  | listed _ _ _ named => exact named

/-- What a client executes breaks no rule. -/
theorem Executes.violations_eq (executes : client.Executes statements before after) :
    ∀ statement ∈ statements, statement.violations = [] := by
  induction executes with
  | done => simp
  | next valid _ _ _ ih => exact List.forall_mem_cons.2 ⟨valid, ih⟩

/-- Statements that are executed one list behind the other are executed together. -/
theorem Executes.append (executes : client.Executes statements before middle)
    (continues : client.Executes others middle after) :
    client.Executes (statements ++ others) before after := by
  induction executes with
  | done => exact continues
  | next valid answers succeeds _ ih => exact .next valid answers succeeds (ih continues)

end Client

/-! ### The service -/

namespace ContactsService

variable (service : ContactsService σ) {statement : Statement} {session after : Session σ}

/-- An answer that is received with success is what the client answered. -/
theorem exists_of_run_receive {ask : σ → Reply α × σ} {result : α}
    (succeeds : (service.receive ask).run session = (.ok result, after)) :
    ∃ reply, ask session.client = (reply, after.client) ∧ reply.result = .ok result := by
  simp only [receive] at succeeds
  split at succeeds
  · cases succeeds
  · rcases Prod.mk.inj succeeds with ⟨received, rfl⟩
    exact ⟨_, rfl, mapError_eq_ok_iff.1 received⟩

/-- A statement that is prepared breaks no rule, and the client has heard nothing of it yet. -/
theorem run_prepare_eq_ok {sql : String}
    (succeeds : (service.prepare statement).run session = (.ok sql, after)) :
    statement.violations = [] ∧ sql = statement.sql ∧ after.client = session.client := by
  by_cases valid : statement.violations = []
  · rw [prepare, Statement.checkedSql_of_valid valid] at succeeds
    cases succeeds
    exact ⟨valid, rfl, rfl⟩
  · rw [prepare, Statement.checkedSql_of_broken valid] at succeeds
    cases succeeds

/-- An operation without rows that succeeds has had its statement executed. -/
theorem executes_of_run_execute
    (succeeds : (service.execute statement).run session = (.ok (), after)) :
    service.client.Executes [statement] session.client after.client := by
  rcases Run.exists_of_run_bind succeeds with ⟨sql, middle, prepares, receives⟩
  rcases service.run_prepare_eq_ok prepares with ⟨valid, rfl, same⟩
  rcases service.exists_of_run_receive receives with ⟨reply, answers, answered⟩
  rw [same] at answers
  exact .next valid answers answered .done

theorem executes_of_run_alter {request : AlterContact}
    (succeeds : (service.alter request).run session = (.ok (), after)) :
    service.client.Executes [.alter request] session.client after.client :=
  (service.on "contacts.alter" request.name).executes_of_run_execute succeeds

/-- An operation with rows that succeeds was answered with rows that all decode. -/
theorem lists_of_run_fetch {decode : Decoder α} {results : List α}
    (succeeds : (service.fetch statement decode).run session = (.ok results, after)) :
    ∃ rows, service.client.Lists statement rows session.client after.client ∧
      rows.mapM (fun row => decode (.object row)) = .ok results := by
  rcases Run.exists_of_run_bind succeeds with ⟨sql, prepared, prepares, continues⟩
  rcases service.run_prepare_eq_ok prepares with ⟨valid, rfl, same⟩
  rcases Run.exists_of_run_bind continues with ⟨rows, received, receives, decodes⟩
  rcases service.exists_of_run_receive receives with ⟨reply, answers, answered⟩
  rw [same] at answers
  rcases Run.exists_of_run_bind decodes with ⟨_, logged, logs, decodes⟩
  cases logs
  rcases Prod.mk.inj decodes with ⟨decoded, rfl⟩
  exact ⟨rows, ⟨reply, answers, answered⟩, mapError_eq_ok_iff.1 decoded⟩

/-- A lookup that succeeds found its contact among the rows of its one statement. -/
theorem finds_of_run_showById {identifier : Identifier} {contact : Contact}
    (succeeds : (service.showById identifier).run session = (.ok contact, after)) :
    service.client.Finds identifier contact session.client after.client := by
  rcases Run.exists_of_run_bind succeeds with ⟨contacts, shown, shows, chooses⟩
  rcases Run.exists_of_run_bind shows with ⟨listed, middle, fetches, maps⟩
  cases maps
  rcases ContactsService.lists_of_run_fetch _ fetches with ⟨rows, lists, decoded⟩
  split at chooses
  · rename_i found chosen
    cases chooses
    rcases List.mem_map.1 (List.mem_of_find?_eq_some chosen) with ⟨row, member, rfl⟩
    rcases exists_input_of_mapM decoded row member with ⟨entries, mentioned, decodes⟩
    have named := List.find?_some chosen
    exact .listed lists mentioned decodes (of_decide_eq_true named)
  · cases chooses

theorem finds_of_run_showByIdSafely {identifier : Identifier} {contact : Contact}
    (succeeds : (service.showByIdSafely identifier).run session = (.ok (some contact), after)) :
    service.client.Finds identifier contact session.client after.client := by
  rcases Run.run_of_run_recover succeeds with shows | ⟨failure, middle, -, handles⟩
  · rcases Run.exists_of_run_bind shows with ⟨found, middle, shows, chosen⟩
    cases chosen
    exact (service.on "contacts.show_by_id_safely" identifier).finds_of_run_showById shows
  · split at handles
    · cases handles
    · cases handles

end ContactsService

/-! ### The provider -/

namespace ContactProvider

section steps

variable {provider : ContactProvider σ} {contacts : ContactsService σ} {identifier target : Identifier}
  {session after : Session σ}

/-- What succeeds within a limit succeeds without one. -/
theorem run_of_run_bounded {operation : Run (Session σ) Failure α} {result : α}
    (succeeds : (provider.bounded operation).run session = (.ok result, after)) :
    operation.run session = (.ok result, after) := by
  rcases Run.run_of_run_recover succeeds with ran | ⟨failure, middle, -, handles⟩
  · exact ran
  · cases failure with
    | failed error => cases handles
    | interrupted => cases handles

/-- What succeeds under reporting succeeds without it. -/
theorem run_of_run_reporting {operation : Run (Session σ) ProviderError α} {message : String}
    {result : α}
    (succeeds : (reporting contacts message identifier operation).run session =
      (.ok result, after)) : operation.run session = (.ok result, after) := by
  rcases Run.run_of_run_recover succeeds with ran | ⟨error, middle, -, handles⟩
  · exact ran
  · cases handles

/-- An alteration that succeeds was executed if it was needed, and otherwise nothing was. -/
theorem executes_of_run_alterIf {needed : Prop} [Decidable needed] {request : AlterContact}
    (succeeds : (provider.alterIf contacts needed request).run session = (.ok (), after)) :
    contacts.client.Executes (if needed then [.alter request] else []) session.client
      after.client := by
  rw [alterIf] at succeeds
  split at succeeds
  · rename_i isNeeded
    rw [if_pos isNeeded]
    exact contacts.executes_of_run_alter (run_of_run_bounded succeeds)
  · rename_i notNeeded
    cases succeeds
    rw [if_neg notNeeded]
    exact .done

/-- Properties that are applied have had their statements executed, as far as there is something to change. -/
theorem executes_of_run_applyProperties {set : SetProperties} {unset : UnsetProperties}
    (succeeds : (provider.applyProperties contacts identifier set unset).run session =
      (.ok (), after)) :
    contacts.client.Executes (Statement.forProperties identifier set unset) session.client
      after.client := by
  rw [applyProperties_eq] at succeeds
  rcases Run.exists_of_run_bind succeeds with ⟨_, middle, assigns, resets⟩
  exact (executes_of_run_alterIf assigns).append (executes_of_run_alterIf resets)

/-- A rename that succeeds was executed, and the new identifier is the one that goes on. -/
theorem executes_of_run_rename {result : Identifier}
    (succeeds : (provider.rename contacts identifier target).run session = (.ok result, after)) :
    result = target ∧
      contacts.client.Executes [.rename identifier target] session.client after.client := by
  rcases Run.exists_of_run_bind succeeds with ⟨_, middle, alters, continues⟩
  rcases Run.exists_of_run_bind continues with ⟨_, logged, logs, ends⟩
  cases logs
  cases ends
  have executes := contacts.executes_of_run_alter (run_of_run_bounded alters)
  exact ⟨rfl, executes⟩

/-- A state that is read is that of a contact which the client lists under the identifier. -/
theorem finds_of_run_readContact {state : Value}
    (succeeds : (provider.readContact contacts identifier).run session = (.ok (some state), after)) :
    ∃ contact, state = contactState contact ∧
      contacts.client.Finds identifier contact session.client after.client := by
  rcases Run.exists_of_run_bind succeeds with ⟨shown, before, shows, maps⟩
  cases shown with
  | none => cases maps
  | some contact =>
      cases maps
      exact ⟨contact, rfl, contacts.finds_of_run_showByIdSafely (run_of_run_bounded shows)⟩

theorem finds_of_run_readBack {state : Value}
    (succeeds : (provider.readBack contacts identifier).run session = (.ok state, after)) :
    ∃ contact, state = contactState contact ∧
      contacts.client.Finds identifier contact session.client after.client := by
  rcases Run.exists_of_run_bind succeeds with ⟨found, middle, reads, ends⟩
  cases found with
  | none => cases ends
  | some found =>
      cases ends
      exact finds_of_run_readContact reads

end steps

section operations

variable {provider : ContactProvider σ} {contacts : ContactsService σ} {resourceType : String}
  {prior planned state : Value} {recorded identifier : Identifier}
  {current desired : ContactAttributes} {renamed : Bool}
  {session after : Session σ}

/-- What is applied with a guard and succeeds was applied. -/
theorem run_of_run_applyGuarded
    (succeeds : (provider.applyGuarded contacts prior current desired renamed identifier).run
      session = (.ok (), after)) :
    (provider.applyProperties contacts identifier (propertiesToSet current desired)
      (propertiesToUnset current desired)).run session = (.ok (), after) := by
  rcases Run.run_of_run_recover succeeds with ran | ⟨error, middle, -, handles⟩
  · exact ran
  · cases renamed with
    | false => cases handles
    | true => cases handles

/--
Settling that succeeds has executed what the properties ask for, and then found the contact whose
state it gives.
-/
theorem exists_of_run_settle
    (succeeds : (provider.settle contacts prior current desired renamed identifier).run session =
      (.ok state, after)) :
    ∃ middle contact, state = contactState contact ∧
      contacts.client.Executes (settles identifier current desired) session.client middle ∧
        contacts.client.Finds identifier contact middle after.client := by
  rcases Run.exists_of_run_bind succeeds with ⟨_, middle, applies, continues⟩
  rcases Run.exists_of_run_bind continues with ⟨_, logged, logs, reads⟩
  cases logs
  rcases finds_of_run_readBack reads with ⟨contact, rfl, finds⟩
  exact ⟨_, contact, rfl, executes_of_run_applyProperties (run_of_run_applyGuarded applies), finds⟩

/--
A change that is carried out has executed every alteration, and then found the contact under the
name that it has now.
-/
theorem exists_of_run_carryOut
    (succeeds : (provider.carryOut contacts prior recorded current desired).run session =
      (.ok state, after)) :
    ∃ middle contact, state = contactState contact ∧
      contacts.client.Executes (alterations recorded current desired) session.client middle ∧
        contacts.client.Finds (settledIdentifier recorded current desired) contact middle
          after.client := by
  rw [carryOut] at succeeds
  rw [alterations_eq]
  by_cases same : current.name = desired.name
  · rw [if_pos same] at succeeds
    rw [renames, if_pos same, settledIdentifier, if_pos same]
    exact exists_of_run_settle succeeds
  · rw [if_neg same] at succeeds
    rw [renames_of_ne same, settledIdentifier_of_ne same]
    rcases Run.exists_of_run_bind succeeds with ⟨identifier, between, renames, settled⟩
    rcases executes_of_run_rename renames with ⟨rfl, executes⟩
    rcases exists_of_run_settle settled with ⟨middle, contact, rfl, continues, finds⟩
    exact ⟨middle, contact, rfl, executes.append continues, finds⟩

/-- A create that ends with a state has had its statement executed, and then found the contact. -/
theorem exists_of_run_create (desires : ContactAttributes.ofState planned = .ok desired)
    (succeeds : (provider.create resourceType planned).run session = (.ok state, after)) :
    ∃ middle contact, state = contactState contact ∧
      provider.client.Executes
          [.create { name := desired.identifier, email := desired.email, comment := desired.comment }]
          session.client middle ∧
        provider.client.Finds desired.identifier contact middle after.client := by
  rcases Run.exists_of_run_ofExcept_bind succeeds with ⟨_, -, carries⟩
  rcases Run.exists_of_run_ofExcept_bind carries with ⟨_, decodes, carries⟩
  cases desires.symm.trans decodes
  rcases Run.exists_of_run_bind carries with ⟨_, created, reports, continues⟩
  rcases Run.exists_of_run_bind continues with ⟨_, logged, logs, reads⟩
  cases logs
  rcases finds_of_run_readBack reads with ⟨contact, rfl, finds⟩
  have creates := run_of_run_bounded (run_of_run_reporting reports)
  exact ⟨_, contact, rfl, ContactsService.executes_of_run_execute _ creates, finds⟩

/-- A state that is read again and is not null is that of a contact found under the recorded identifier. -/
theorem finds_of_run_read (recordedAs : stateIdentifier prior = .ok recorded)
    (present : state ≠ .null)
    (succeeds : (provider.read resourceType prior).run session = (.ok state, after)) :
    ∃ contact, state = contactState contact ∧
      provider.client.Finds recorded contact session.client after.client := by
  rcases Run.exists_of_run_ofExcept_bind succeeds with ⟨_, -, carries⟩
  rcases Run.exists_of_run_ofExcept_bind carries with ⟨_, decodes, carries⟩
  cases recordedAs.symm.trans decodes
  rcases Run.exists_of_run_bind carries with ⟨found, middle, reads, ends⟩
  cases found with
  | some found =>
      cases ends
      exact finds_of_run_readContact reads
  | none =>
      cases ends
      exact absurd rfl present

/-- An import that succeeds gives the one contact found under the identifier. -/
theorem finds_of_run_importResource {id : String} {resources : List ImportedResource}
    (names : Identifier.parse id = .ok recorded)
    (succeeds : (provider.importResource resourceType id).run session = (.ok resources, after)) :
    ∃ contact, resources = [⟨contactResourceType, contactState contact⟩] ∧
      provider.client.Finds recorded contact session.client after.client := by
  rcases Run.exists_of_run_ofExcept_bind succeeds with ⟨_, -, carries⟩
  rcases Run.exists_of_run_ofExcept_bind carries with ⟨_, decodes, carries⟩
  cases names.symm.trans (mapError_eq_ok_iff.1 decodes)
  rcases Run.exists_of_run_bind carries with ⟨contact, middle, shows, ends⟩
  cases ends
  exact ⟨contact, rfl, ContactsService.finds_of_run_showById _ (run_of_run_bounded shows)⟩

/--
An update that ends with a state has executed every alteration that its states ask for, and then
found the contact under the name that these settle.
-/
theorem exists_of_run_update
    (recordedAs : stateIdentifier prior = .ok recorded)
    (currently : ContactAttributes.ofState prior = .ok current)
    (desires : ContactAttributes.ofState planned = .ok desired)
    (succeeds : (provider.update resourceType prior planned).run session = (.ok state, after)) :
    ∃ middle contact, state = contactState contact ∧
      provider.client.Executes (alterations recorded current desired) session.client middle ∧
        provider.client.Finds (settledIdentifier recorded current desired) contact middle
          after.client := by
  rw [update_eq, recordedAs, currently, desires] at succeeds
  rcases Run.exists_of_run_ofExcept_bind succeeds with ⟨_, -, carries⟩
  exact exists_of_run_carryOut carries

end operations

end ContactProvider

end AlertContacts
