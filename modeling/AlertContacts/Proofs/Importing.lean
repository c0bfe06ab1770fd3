import AlertContacts.Proofs.Gate
import AlertContacts.Proofs.Identity

/-!
# Reading and importing

A contact that is read again and a contact that is imported are looked up by the same statement, and the
answer settles how either ends (`ContactProvider.outcome_read`, `ContactProvider.outcome_importResource`).
They differ in what becomes of a contact that is not there, which reading sorts out in the service and
importing leaves to the conversion of errors. Both go by the same test
(`ProviderError.ofService_eq_notFound_iff`), so reading ends with null exactly where importing ends with
`notFound`, and otherwise they agree (`ContactProvider.read_agrees_with_import`).
-/

namespace AlertContacts

open Json

variable {σ ε ε' α : Type}

/-- A handler that asks nothing leaves the client as the failure did. -/
theorem Run.client_recover {first : Run (Session σ) ε α} {handle : ε → Run (Session σ) ε' α}
    (keeps : ∀ error after, ((handle error).run after).2.client = after.client)
    (before : Session σ) :
    ((first.recover handle).run before).2.client = (first.run before).2.client := by
  rw [run_recover]
  cases first.run before with
  | mk outcome after =>
      cases outcome with
      | error error => exact keeps error after
      | ok result => rfl

/-! ### Lookups -/

namespace ContactsService

/-- A lookup asks its client for the one listing. -/
theorem client_showById (service : ContactsService σ) (identifier : Identifier)
    (session : Session σ) :
    ((service.showById identifier).run session).2.client =
      (service.client.query (lookup identifier).sql session.client).2 := by
  refine (Run.client_bind ?_ session).trans ?_
  · intro contacts after
    split <;> rfl
  · refine (Run.client_bind (fun rows after => rfl) session).trans ?_
    exact ContactsService.client_fetch _ rfl session ShowRow.decode

theorem client_showByIdSafely (service : ContactsService σ) (identifier : Identifier)
    (session : Session σ) :
    ((service.showByIdSafely identifier).run session).2.client =
      (service.client.query (lookup identifier).sql session.client).2 := by
  refine (Run.client_recover ?_ session).trans ?_
  · intro failure after
    split <;> rfl
  · refine (Run.client_bind (fun contact after => rfl) session).trans ?_
    exact client_showById _ identifier session

end ContactsService

/-! ### Failures -/

/-- A host is told that a contact is not there exactly where the service says so. -/
theorem ProviderError.ofService_eq_notFound_iff {error : ServiceError} {message : String} :
    ofService error = .notFound message ↔ error.isObjectNotFound = true ∧ error.message = message := by
  unfold ofService
  split
  · rename_i missing
    simp [missing]
  · rename_i other
    split <;> simp [other]

namespace ContactProvider

variable (provider : ContactProvider σ)

/-- Whatever the reported error says, it tells of a missing contact exactly where the failure does. -/
theorem exists_reported_eq_notFound_iff {failure : Failure} :
    (∃ message, provider.reported failure = .notFound message) ↔ failure.isObjectNotFound = true := by
  cases failure with
  | interrupted => simp [reported, deadlineExceeded, Failure.isObjectNotFound]
  | failed error => simp [reported, ProviderError.ofService_eq_notFound_iff, Failure.isObjectNotFound]

theorem client_bounded (operation : Run (Session σ) Failure α) (session : Session σ) :
    ((provider.bounded operation).run session).2.client = (operation.run session).2.client := by
  apply Run.client_recover
  rintro (error | _) after
  · rfl
  · rfl

/-! ### Reading and importing -/

/-- How importing ends, by what the lookup makes of the answer. -/
def importOutcome : Except Failure Contact → Except ProviderError (List ImportedResource)
  | .ok contact => .ok [⟨contactResourceType, contactState contact⟩]
  | .error failure => .error (provider.reported failure)

section operations

variable {current : Value} {id : String} {identifier : Identifier} (session : Session σ)

/-- Importing ends as its lookup says, whatever the span that the lookup happens in. -/
theorem outcome_importResource (parses : Identifier.parse id = .ok identifier) (around : Span) :
    ((provider.importResource contactResourceType id).run session).1 =
      provider.importOutcome ((provider.contacts around).lookedUp identifier session.client) := by
  have shown (inside : Span) :
      (((provider.contacts inside).showById identifier).run session).1 =
        (provider.contacts around).lookedUp identifier session.client :=
    (provider.contacts inside).outcome_showById identifier session
  rw [importResource, importIdentifier, parses]
  change ((provider.bounded ((provider.contacts _).showById identifier) >>= _).run session).1 = _
  rw [Run.outcome_bind (fun contact => .ok [⟨contactResourceType, contactState contact⟩])
    (fun _ _ => rfl), outcome_bounded, shown]
  cases (provider.contacts around).lookedUp identifier session.client with
  | ok contact => rfl
  | error failure => rfl

/-- Reading a state asks the client for the lookup of its identifier, and for nothing else. -/
theorem client_read (recordedAs : stateIdentifier current = .ok identifier) :
    ((provider.read contactResourceType current).run session).2.client =
      (provider.client.query (ContactsService.lookup identifier).sql session.client).2 := by
  rw [read, recordedAs]
  change ((provider.readContact (provider.contacts _) identifier >>= _).run session).2.client = _
  refine (Run.client_bind ?_ session).trans ?_
  · rintro (_ | state) after
    · rfl
    · rfl
  · refine (Run.client_bind (fun contact after => rfl) session).trans ?_
    rw [client_bounded, ContactsService.client_showByIdSafely]
    rfl

/-- Importing asks the client for the lookup of the identifier, and for nothing else. -/
theorem client_importResource (parses : Identifier.parse id = .ok identifier) :
    ((provider.importResource contactResourceType id).run session).2.client =
      (provider.client.query (ContactsService.lookup identifier).sql session.client).2 := by
  rw [importResource, importIdentifier, parses]
  change ((provider.bounded ((provider.contacts _).showById identifier) >>= _).run
    session).2.client = _
  refine (Run.client_bind (fun contact after => rfl) session).trans ?_
  rw [client_bounded, ContactsService.client_showById]
  rfl

end operations

/-- What is sent to import the contact of an identifier. -/
def importExchanges (provider : ContactProvider σ) (resourceType id : String) (session : Session σ) :
    List Exchange :=
  ((provider.recording.importResource resourceType id).run session.recording).2.client.exchanges

/-- Reading and importing make the same of an answer, but for how they tell that the contact is gone. -/
structure EndAlike (read : Except ProviderError Value)
    (imported : Except ProviderError (List ImportedResource)) : Prop where
  found : ∀ state, read = .ok state ∧ state ≠ .null ↔ imported = .ok [⟨contactResourceType, state⟩]
  gone : read = .ok .null ↔ ∃ message, imported = .error (.notFound message)
  failed : ∀ error, read = .error error ↔
    imported = .error error ∧ ∀ message, error ≠ .notFound message

/-- A contact that is found leads to the same state either way. -/
theorem endAlike_of_contact (contact : Contact) :
    EndAlike (provider.readOutcome (.ok contact)) (provider.importOutcome (.ok contact)) := by
  have present := (recordedIn_contactState contact).ne_null
  rw [readOutcome, importOutcome]
  constructor
  · intro state
    simp only [Except.ok.injEq, List.cons.injEq, ImportedResource.mk.injEq, true_and, and_true]
    constructor
    · rintro ⟨rfl, -⟩
      rfl
    · rintro rfl
      exact ⟨rfl, present⟩
  · simp [present]
  · simp

/-- A lookup that fails leads to a contact that is gone, or to the same error. -/
theorem endAlike_of_failure (failure : Failure) :
    EndAlike (provider.readOutcome (.error failure)) (provider.importOutcome (.error failure)) := by
  have told : (∃ message, provider.reported failure = .notFound message) ↔
      failure.isObjectNotFound = true := provider.exists_reported_eq_notFound_iff
  rw [readOutcome, importOutcome]
  -- Reading tests the failure, and importing what the host is told of it.
  by_cases missing : failure.isObjectNotFound = true
  · rcases told.2 missing with ⟨message, told⟩
    rw [if_pos missing, told]
    constructor
    · intro state
      constructor
      · rintro ⟨⟨rfl⟩, present⟩
        exact absurd rfl present
      · rintro ⟨⟩
    · simp
    · intro error
      constructor
      · rintro ⟨⟩
      · rintro ⟨⟨rfl⟩, other⟩
        exact absurd rfl (other message)
  · rw [if_neg missing]
    constructor
    · simp
    · constructor
      · rintro ⟨⟩
      · rintro ⟨message, same⟩
        exact absurd (told.1 ⟨message, Except.error.inj same⟩) missing
    · intro error
      constructor
      · rintro ⟨rfl⟩
        exact ⟨rfl, fun message same => missing (told.1 ⟨message, same⟩)⟩
      · rintro ⟨⟨rfl⟩, -⟩
        rfl

/--
Reading a state and importing its identifier send the same statement, and the same answer leads to the same
state, to a contact that is gone, or to the same error.
-/
theorem read_agrees_with_import (provider : ContactProvider σ) {current : Value} {id : String}
    {identifier : Identifier} (recorded : current.get? idAttribute = some (.string id))
    (parses : Identifier.parse id = .ok identifier) (session : Session σ) :
    provider.readExchanges contactResourceType current session =
        provider.importExchanges contactResourceType id session ∧
      SentOnce (ContactsService.lookup identifier)
        (provider.readExchanges contactResourceType current session) ∧
      EndAlike ((provider.read contactResourceType current).run session).1
        ((provider.importResource contactResourceType id).run session).1 := by
  have recordedAs := stateIdentifier_of_parse recorded parses
  refine ⟨?_, sentOnce_readExchanges recordedAs, ?_⟩
  · rw [readExchanges, importExchanges, provider.recording.client_read _ recordedAs,
      provider.recording.client_importResource _ parses]
  · rw [outcome_read recordedAs (span "read" contactResourceType),
      provider.outcome_importResource session parses (span "read" contactResourceType)]
    cases (provider.contacts _).lookedUp identifier session.client with
    | ok contact => exact provider.endAlike_of_contact contact
    | error failure => exact provider.endAlike_of_failure failure

/-- The platform tells by the words of an error alone that the contact is not there. -/
def goneSession : Session Script :=
  ⟨{ queryAnswers := [.error (.execution none "Object does not exist or not authorized")] }, []⟩

theorem read_agrees_with_import_gone :
    ((scripted.read contactResourceType (.object [("id", .string "\"ops team\"")])).run
        goneSession).1 = .ok .null ∧
      ∃ message, ((scripted.importResource contactResourceType "\"ops team\"").run
        goneSession).1 = .error (.notFound message) := by
  have recorded : Value.get? idAttribute (.object [("id", .string "\"ops team\"")]) =
      some (.string "\"ops team\"") := rfl
  have parses : Identifier.parse "\"ops team\"" = .ok ⟨"ops team"⟩ := rfl
  rcases read_agrees_with_import scripted recorded parses goneSession with ⟨-, -, alike⟩
  exact ⟨rfl, alike.gone.1 rfl⟩

end ContactProvider

end AlertContacts
