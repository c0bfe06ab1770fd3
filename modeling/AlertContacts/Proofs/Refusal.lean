import AlertContacts.Proofs.Provider
import AlertContacts.Proofs.Record

/-!
# Refused requests

A request is refused when something is wrong with the request itself: a name that is empty, a state that
does not decode. Such a failure comes before anything is sent (`ProviderError.IsRefusal`). Every other
failure tells of an answer, that it was an error, late, or not what the operation reads. The failures of reading
a state are all of one kind (`FailsInvalid`), and carry no state.

`Run.FailsOnly` bounds the failures of a run from every state, and is closed under the ways in which runs
are put together. The operations of the service whose statement breaks no rule do not refuse, and neither
does a provider that bounds them or reads a contact back.
-/

namespace AlertContacts

open Json

variable {σ τ ε ε' α β : Type}

namespace Run

/-- All failures of a run have a property. -/
def FailsOnly (operation : Run τ ε α) (property : ε → Prop) : Prop :=
  ∀ before error, (operation.run before).1 = .error error → property error

section FailsOnly

variable {property : ε → Prop} {middle : ε' → Prop}

theorem FailsOnly.ofExcept {outcome : Except ε α}
    (fails : ∀ error, outcome = .error error → property error) :
    (ofExcept outcome : Run τ ε α).FailsOnly property :=
  fun _ => fails

theorem FailsOnly.pure (result : α) : (Pure.pure result : Run τ ε α).FailsOnly property := by
  rintro before error ⟨⟩

theorem FailsOnly.fail {error : ε} (holds : property error) :
    (fail error : Run τ ε α).FailsOnly property := by
  rintro before _ ⟨rfl⟩
  exact holds

theorem FailsOnly.log (event : Event) :
    (Session.log event : Run (Session σ) ε Unit).FailsOnly property := by
  rintro session error ⟨⟩

/-- A sequence fails as its first part or as what follows. -/
theorem FailsOnly.bind {first : Run τ ε α} {next : α → Run τ ε β}
    (fails : first.FailsOnly property) (continues : ∀ result, (next result).FailsOnly property) :
    (first >>= next).FailsOnly property := by
  intro before error ends
  have firstFails := fails before
  rw [run_bind] at ends
  generalize first.run before = state at firstFails ends
  rcases state with ⟨error | result, after⟩
  · cases ends
    exact firstFails _ rfl
  · exact continues result after error ends

theorem FailsOnly.map {first : Run τ ε α} (fails : first.FailsOnly property) (function : α → β) :
    (function <$> first).FailsOnly property :=
  fails.bind fun result => .pure (function result)

/-- With a handler behind it, a run fails as the handler does. -/
theorem FailsOnly.recover {first : Run τ ε' α} {handle : ε' → Run τ ε α}
    (fails : first.FailsOnly middle)
    (handles : ∀ error, middle error → (handle error).FailsOnly property) :
    (first.recover handle).FailsOnly property := by
  intro before error ends
  have firstFails := fails before
  rw [run_recover] at ends
  generalize first.run before = state at firstFails ends
  rcases state with ⟨failure | result, after⟩
  · exact handles failure (firstFails _ rfl) after error ends
  · cases ends

end FailsOnly

end Run

/-! ### Invalid requests -/

def ProviderError.IsInvalidRequest : ProviderError → Prop
  | .invalidRequest _ => True
  | _ => False

/-- A failure is due to the request itself. -/
def FailsInvalid (outcome : Except ProviderError α) : Prop :=
  ∀ error, outcome = .error error → error.IsInvalidRequest

namespace FailsInvalid

theorem ok (result : α) : FailsInvalid (.ok result) := by
  rintro error ⟨⟩

theorem invalidRequest (message : String) :
    FailsInvalid (.error (.invalidRequest message) : Except ProviderError α) := by
  rintro error ⟨⟩
  trivial

theorem bind {first : Except ProviderError α} {next : α → Except ProviderError β}
    (fails : FailsInvalid first) (continues : ∀ result, FailsInvalid (next result)) :
    FailsInvalid (first >>= next) := by
  cases first with
  | error error =>
      rintro _ ⟨⟩
      exact fails error rfl
  | ok result => exact continues result

/-- Reading the attributes of a state fails only because the state is not one of a contact. -/
theorem ofState (state : Value) : FailsInvalid (ContactAttributes.ofState state) := by
  rw [ContactAttributes.ofState]
  split
  · exact .ok _
  · exact .invalidRequest _

/-- Reading the identifier of a state fails only because the state does not record one. -/
theorem stateIdentifier (state : Value) : FailsInvalid (AlertContacts.stateIdentifier state) := by
  rw [AlertContacts.stateIdentifier]
  split
  · exact .invalidRequest _
  · intro error fails
    rcases mapError_eq_error_iff.1 fails with ⟨reason, -, rfl⟩
    trivial

/-- An invalid request carries no state. -/
theorem failsPlainly {outcome : Except ProviderError α} (fails : FailsInvalid outcome) :
    FailsPlainly outcome := by
  intro error ends
  have invalid := fails error ends
  cases error with
  | invalidRequest message => rfl
  | _ => exact absurd invalid id

end FailsInvalid

/-! ### Refusals -/

/-- The options of a request break a structural rule. -/
def Failure.IsRefusal : Failure → Prop
  | .failed (.validation _) => True
  | _ => False

/-- A request that the provider does not carry out as it is. -/
def ProviderError.IsRefusal : ProviderError → Prop
  | .invalidRequest _ | .validation _ | .unknownResource _ => True
  | _ => False

/-- An answer that a host is told of is no refusal. -/
theorem ProviderError.not_isRefusal_ofService {error : ServiceError}
    (answered : ¬(Failure.failed error).IsRefusal) : ¬(ofService error).IsRefusal := by
  unfold ofService
  split
  · exact id
  · split
    · exact absurd trivial answered
    · exact id
    · exact id

namespace ContactsService

variable (service : ContactsService σ)

/-- What fails on the way from the client is no refusal. -/
theorem failsOnly_receive (ask : σ → Reply α × σ) :
    (service.receive ask).FailsOnly fun failure => ¬failure.IsRefusal := by
  intro session failure ends
  change (if service.isOverdue (ask session.client).1.elapsed then _ else _) = _ at ends
  split at ends
  · cases ends
    exact id
  · cases answer : (ask session.client).1.result with
    | error error =>
        rw [answer] at ends
        cases ends
        exact id
    | ok result =>
        rw [answer] at ends
        cases ends

section valid

variable {statement : Statement} (valid : statement.violations = [])

include valid

theorem failsOnly_prepare :
    (service.prepare statement).FailsOnly fun failure => ¬failure.IsRefusal := by
  rw [prepare, Statement.checkedSql_of_valid valid]
  refine .bind (.ofExcept (by rintro failure ⟨⟩)) fun sql => ?_
  exact .bind (.log _) fun _ => .pure sql

/-- A statement that breaks no rule is not refused when it is executed. -/
theorem failsOnly_execute :
    (service.execute statement).FailsOnly fun failure => ¬failure.IsRefusal :=
  .bind (service.failsOnly_prepare valid) fun _ => service.failsOnly_receive _

theorem failsOnly_fetch (decode : Decoder α) :
    (service.fetch statement decode).FailsOnly fun failure => ¬failure.IsRefusal := by
  refine .bind (service.failsOnly_prepare valid) fun sql => ?_
  refine .bind (service.failsOnly_receive _) fun rows => ?_
  refine .bind (.log _) fun _ => .ofExcept fun failure fails => ?_
  cases decoded : rows.mapM fun row => decode (.object row) with
  | error error =>
      rw [decoded] at fails
      cases fails
      exact id
  | ok results =>
      rw [decoded] at fails
      cases fails

end valid

theorem failsOnly_showById (identifier : Identifier) :
    (service.showById identifier).FailsOnly fun failure => ¬failure.IsRefusal := by
  have valid : (lookup identifier).violations = [] := rfl
  have lists := ((service.on "contacts.show_by_id" identifier).inside
    ⟨"contacts.show", []⟩).failsOnly_fetch valid ShowRow.decode
  refine .bind (lists.map (·.map Contact.ofRow)) fun contacts => ?_
  split
  · exact .pure _
  · exact .fail id

theorem failsOnly_showByIdSafely (identifier : Identifier) :
    (service.showByIdSafely identifier).FailsOnly fun failure => ¬failure.IsRefusal := by
  refine .recover ((failsOnly_showById _ identifier).map some) fun failure answered => ?_
  split
  · exact .pure none
  · exact .fail answered

end ContactsService

namespace ContactProvider

variable (provider : ContactProvider σ)

/-- Late or not, what is not refused by the service is not refused by the provider. -/
theorem failsOnly_bounded {operation : Run (Session σ) Failure α}
    (fails : operation.FailsOnly fun failure => ¬failure.IsRefusal) :
    (provider.bounded operation).FailsOnly fun error => ¬error.IsRefusal := by
  refine fails.recover ?_
  rintro (error | _) answered
  · exact .fail (ProviderError.not_isRefusal_ofService answered)
  · exact .fail id

theorem failsOnly_reporting (contacts : ContactsService σ) (message : String)
    (identifier : Identifier) {operation : Run (Session σ) ProviderError α}
    {property : ProviderError → Prop} (fails : operation.FailsOnly property) :
    (reporting contacts message identifier operation).FailsOnly property := by
  refine fails.recover fun error holds => ?_
  exact .bind (.log _) fun _ => .fail holds

/-- A contact that is not read back does not make the request a refused one. -/
theorem failsOnly_readBack (contacts : ContactsService σ) (identifier : Identifier) :
    (provider.readBack contacts identifier).FailsOnly fun error => ¬error.IsRefusal := by
  have reads := provider.failsOnly_bounded (contacts.failsOnly_showByIdSafely identifier)
  refine .bind (.bind reads fun contact => .pure _) fun state => ?_
  cases state with
  | none => exact .fail id
  | some state => exact .pure state

end ContactProvider

end AlertContacts
