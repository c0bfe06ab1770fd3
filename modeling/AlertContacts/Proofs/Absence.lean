import AlertContacts.Proofs.Importing

/-!
# Contacts that are not there

An error can say in four ways that a contact is not there: the service misses it among rows, or the client
says so itself, by the platform's code or by the platform's words (`ServiceError.SaysAbsent`). Whoever removes
a contact goes by the same test. A safe removal takes an absent contact for a removed one and is a plain
removal otherwise, and the provider tells its host `notFound` of exactly these errors, with their text
(`ContactsService.absence_told_alike`).
-/

namespace AlertContacts

open Json

variable {σ τ ε α : Type}

/-! ### Errors -/

/-- The ways to say that an object is not there. -/
inductive ServiceError.SaysAbsent : ServiceError → Prop where
  | missed (name : String) : SaysAbsent (.objectNotFound name)
  | classified (message : String) : SaysAbsent (.client (.objectNotFound message))
  | coded (message : String) : SaysAbsent (.client (.execution (some objectNotFoundCode) message))
  | worded {code : Option Int} {message : String}
      (words : objectNotFoundWords.toList <:+: message.toList) :
      SaysAbsent (.client (.execution code message))

/-- The test for a missing object finds exactly the four ways of saying so. -/
theorem ServiceError.isObjectNotFound_iff {error : ServiceError} :
    error.isObjectNotFound = true ↔ error.SaysAbsent := by
  constructor
  · intro found
    rcases error with _ | violations | name | (message | ⟨code, message⟩ | message) | error
    · cases found
    · cases found
    · exact .missed name
    · exact .classified message
    · simp only [isObjectNotFound, ClientError.isObjectNotFound, Bool.or_eq_true, decide_eq_true_eq,
        Text.contains, Text.occursIn_iff] at found
      rcases found with rfl | words
      · exact .coded message
      · exact .worded words
    · cases found
    · cases found
  · intro absent
    cases absent with
    | missed name => rfl
    | classified message => rfl
    | coded message => simp [isObjectNotFound, ClientError.isObjectNotFound]
    | worded words =>
        simp [isObjectNotFound, ClientError.isObjectNotFound, Text.contains,
          Text.occursIn_iff.2 words]

/-! ### Removing a contact -/

/-- A client answers a statement without rows. -/
def Client.Replies (client : Client σ) (statement : Statement) (state : σ) (reply : Reply Unit) :
    Prop :=
  (client.exec statement.sql state).1 = reply

/-- Whether an answer comes within a limit. -/
def Reply.InTime (reply : Reply α) (limit : Option Nat) : Prop :=
  ∀ bound ∈ limit, reply.elapsed ≤ bound

/-- A safe removal ends as the plain one does, but for a contact that is not there. -/
structure EndsSafely (plain safe : Except Failure Unit) : Prop where
  done : safe = .ok () ↔
    plain = .ok () ∨ ∃ failure, plain = .error failure ∧ failure.isObjectNotFound = true
  failed : ∀ failure, safe = .error failure ↔
    plain = .error failure ∧ failure.isObjectNotFound = false

/-- What a host is told of a removal: that a contact is not there exactly if the removal fails with this. -/
structure TellsAbsence (plain : Except Failure Unit) (told : Except ProviderError Unit) : Prop where
  done : told = .ok () ↔ plain = .ok ()
  gone : ∀ message, told = .error (.notFound message) ↔
    ∃ error, plain = .error (.failed error) ∧ error.isObjectNotFound = true ∧ error.message = message

/-- A removal is done as well if the contact is not there. -/
def doneIfAbsent : Except Failure Unit → Except Failure Unit
  | .ok done => .ok done
  | .error failure => if failure.isObjectNotFound then .ok () else .error failure

/-- Taking an absent contact for a removed one is all that makes a removal a safe one. -/
theorem endsSafely_doneIfAbsent (plain : Except Failure Unit) :
    EndsSafely plain (doneIfAbsent plain) := by
  cases plain with
  | ok done => constructor <;> simp [doneIfAbsent]
  | error failure =>
      cases missing : failure.isObjectNotFound with
      | true => constructor <;> simp [doneIfAbsent, missing]
      | false =>
          constructor
          · simp [doneIfAbsent, missing]
          · intro other
            simp only [doneIfAbsent, missing, Bool.false_eq_true, if_false, Except.error.injEq]
            constructor
            · rintro rfl
              exact ⟨rfl, missing⟩
            · rintro ⟨rfl, -⟩
              rfl

namespace ContactsService

theorem isOverdue_congr {service : ContactsService σ} {other : ContactsService τ} {reply : Reply Unit}
    (alike : reply.InTime service.limit ↔ reply.InTime other.limit) :
    service.isOverdue reply.elapsed = other.isOverdue reply.elapsed := by
  rw [Reply.InTime, Reply.InTime, ← isOverdue_eq_false_iff, ← isOverdue_eq_false_iff] at alike
  rw [Bool.eq_iff_iff, ← Bool.not_eq_false, ← Bool.not_eq_false, not_congr alike]

/-- A removal that breaks no rule ends as the answer to its statement says. -/
theorem outcome_drop {service : ContactsService σ} {options : DropContact}
    (valid : (Statement.drop options).violations = []) {reply : Reply Unit} {session : Session σ}
    (replies : service.client.Replies (.drop options) session.client reply) :
    ((service.drop options).run session).1 = service.accept reply := by
  rw [drop, outcome_execute _ valid, ← replies]
  -- The span that a removal runs in changes neither the client nor the limit.
  rfl

/-- Two removals with the same answer end alike; that one of them has `IF EXISTS` makes no difference. -/
theorem outcome_drop_congr {service : ContactsService σ} {other : ContactsService τ}
    {options others : DropContact} (names : options.name = others.name) {reply : Reply Unit}
    {session : Session σ} {again : Session τ}
    (replies : service.client.Replies (.drop options) session.client reply)
    (repliesAgain : other.client.Replies (.drop others) again.client reply)
    (alike : reply.InTime service.limit ↔ reply.InTime other.limit) :
    ((service.drop options).run session).1 = ((other.drop others).run again).1 := by
  have sameRules : (Statement.drop options).violations = (Statement.drop others).violations := by
    simp only [Statement.violations, DropContact.violations, names]
  by_cases valid : (Statement.drop options).violations = []
  · rw [outcome_drop valid replies, outcome_drop (sameRules ▸ valid) repliesAgain]
    rw [accept, accept, isOverdue_congr alike]
  · -- A contact without a name is refused by either, and neither gets the answer.
    rw [drop, drop, run_execute_of_broken _ valid, run_execute_of_broken _ (sameRules ▸ valid),
      sameRules]

/-- A removal whose answer comes late is given up, whatever the answer. -/
theorem outcome_drop_of_late {service : ContactsService σ} {options : DropContact}
    (named : options.name.name ≠ "") {reply : Reply Unit} {session : Session σ}
    (replies : service.client.Replies (.drop options) session.client reply)
    (late : ¬reply.InTime service.limit) :
    ((service.drop options).run session).1 = .error .interrupted := by
  have valid : (Statement.drop options).violations = [] := by
    simp [Statement.violations, DropContact.violations, Identifier.isValid, named]
  rw [Reply.InTime, ← isOverdue_eq_false_iff, Bool.not_eq_false] at late
  rw [outcome_drop valid replies, accept, late, if_pos rfl]

/-- A safe removal is a plain one with `IF EXISTS`, done as well if the contact is absent. -/
theorem outcome_dropSafely (service : ContactsService σ) (identifier : Identifier)
    (session : Session σ) :
    ((service.dropSafely identifier).run session).1 =
      doneIfAbsent (((service.on "contacts.drop_safely" identifier).drop
        { name := identifier, ifExists := true }).run session).1 := by
  rw [dropSafely, Run.run_recover]
  cases ((service.on "contacts.drop_safely" identifier).drop
      { name := identifier, ifExists := true }).run session with
  | mk outcome after =>
      cases outcome with
      | ok done => rfl
      | error failure =>
          cases missing : failure.isObjectNotFound with
          | true => simp [doneIfAbsent, missing, log, Session.log]
          | false => simp [doneIfAbsent, missing]

end ContactsService

namespace ContactProvider

/-- A failure that is logged is passed on as it is. -/
theorem outcome_reporting (contacts : ContactsService σ) (message : String) (identifier : Identifier)
    (operation : Run (Session σ) ProviderError α) (session : Session σ) :
    ((reporting contacts message identifier operation).run session).1 =
      (operation.run session).1 := by
  rw [reporting, Run.run_recover]
  cases operation.run session with
  | mk outcome after => cases outcome <;> rfl

/-- The provider removes the contact that a state records, and reports how that failed. -/
theorem outcome_delete (provider : ContactProvider σ) {current : Value} {identifier : Identifier}
    (recorded : stateIdentifier current = .ok identifier) (session : Session σ) :
    ((provider.delete contactResourceType current).run session).1 =
      (((provider.contacts (span "delete" contactResourceType)).drop
        { name := identifier }).run session).1.mapError provider.reported := by
  rw [delete, recorded]
  change ((reporting _ "Delete failed" identifier _ >>= _).run session).1 = _
  rw [Run.outcome_bind (fun done => .ok done) (fun _ _ => rfl), outcome_reporting, outcome_bounded]
  cases (((provider.contacts _).drop { name := identifier }).run session).1 <;> rfl

/--
What the provider reports tells its host of an absent contact when the failure does, and keeps the
text.
-/
theorem tellsAbsence_reported (provider : ContactProvider σ) (plain : Except Failure Unit) :
    TellsAbsence plain (plain.mapError provider.reported) := by
  cases plain with
  | ok done => constructor <;> simp [Except.mapError]
  | error failure =>
      cases failure with
      | interrupted => constructor <;> simp [Except.mapError, reported, deadlineExceeded]
      | failed error =>
          constructor
          · simp [Except.mapError]
          · intro message
            simp [Except.mapError, reported, ProviderError.ofService_eq_notFound_iff]

end ContactProvider

/-! ### Removals compared -/

namespace ContactsService

/--
With the same answer to the statement, a safe removal ends as the plain one does, with a contact that is not
there taken for a removed one, and the provider tells its host that the contact is not there exactly if the
plain removal fails with this. An answer that is late for the provider is none. Errors are converted by the
same test, and they keep their text.
-/
theorem absence_told_alike {identifier : Identifier} {reply : Reply Unit} {service : ContactsService σ}
    {options : DropContact} (names : options.name = identifier) {session : Session σ}
    (replies : service.client.Replies (.drop options) session.client reply) :
    (∀ again : Session σ,
      service.client.Replies (.drop { name := identifier, ifExists := true }) again.client reply →
      EndsSafely ((service.drop options).run session).1
        ((service.dropSafely identifier).run again).1) ∧
    (∀ (provider : ContactProvider τ) (current : Value) (again : Session τ),
      stateIdentifier current = .ok identifier →
      provider.client.Replies (.drop { name := identifier }) again.client reply →
      let told := ((provider.delete contactResourceType current).run again).1
      ((reply.InTime service.limit ↔ reply.InTime provider.config.limit?) →
        TellsAbsence ((service.drop options).run session).1 told) ∧
      (¬reply.InTime provider.config.limit? → told = .error provider.deadlineExceeded)) ∧
    ∀ error : ServiceError,
      (error.isObjectNotFound = true ↔ error.SaysAbsent) ∧
      ∀ message, ProviderError.ofService error = .notFound message ↔
        error.isObjectNotFound = true ∧ error.message = message := by
  refine ⟨?_, ?_, ?_⟩
  · intro again repliesAgain
    have same : ((service.drop options).run session).1 =
        (((service.on "contacts.drop_safely" identifier).drop
          { name := identifier, ifExists := true }).run again).1 :=
      outcome_drop_congr names replies repliesAgain Iff.rfl
    rw [outcome_dropSafely, ← same]
    exact endsSafely_doneIfAbsent _
  · intro provider current again recorded repliesAgain told
    let contacts := provider.contacts (ContactProvider.span "delete" contactResourceType)
    have ends : told = _ := provider.outcome_delete recorded again
    constructor
    · intro alike
      have same : ((service.drop options).run session).1 =
          ((contacts.drop { name := identifier }).run again).1 :=
        outcome_drop_congr names replies repliesAgain alike
      rw [ends, ← same]
      exact provider.tellsAbsence_reported _
    · intro late
      have interrupted : ((contacts.drop { name := identifier }).run again).1 =
          .error .interrupted :=
        outcome_drop_of_late (name_ne_of_stateIdentifier recorded) repliesAgain late
      rw [ends, interrupted]
      rfl
  · intro error
    exact ⟨ServiceError.isObjectNotFound_iff, fun message => ProviderError.ofService_eq_notFound_iff⟩

/-- The platform tells by its words, under a code of its own, that the contact is not there. -/
def vanished : ClientError :=
  .execution (some 90) "Contact 'ops team' does not exist or not authorized."

def vanishedSession (delay : Nat) : Session Script :=
  ⟨{ execAnswers := [.error vanished], delay := delay }, []⟩

theorem absence_told_alike_by_words :
    let service : ContactsService Script := ⟨Script.client, false, none, []⟩
    let state : Value := .object [("id", .string "\"ops team\"")]
    let drop : Statement := .drop { name := ⟨"ops team"⟩ }
    service.client.Replies drop (vanishedSession 5).client ⟨.error vanished, 5⟩ ∧
      ((service.drop { name := ⟨"ops team"⟩ }).run (vanishedSession 5)).1 =
        .error (.failed (.client vanished)) ∧
      ((service.dropSafely ⟨"ops team"⟩).run (vanishedSession 5)).1 = .ok () ∧
      ((ContactProvider.scripted.delete contactResourceType state).run (vanishedSession 5)).1 =
        .error (.notFound
          "SQL execution error 90: Contact 'ops team' does not exist or not authorized.") ∧
      service.client.Replies drop (vanishedSession 70000).client ⟨.error vanished, 70000⟩ ∧
      ((ContactProvider.scripted.delete contactResourceType state).run (vanishedSession 70000)).1 =
        .error ContactProvider.scripted.deadlineExceeded := by
  intro service state drop
  have replies (delay : Nat) :
      service.client.Replies drop (vanishedSession delay).client ⟨.error vanished, delay⟩ := rfl
  have missing : (ServiceError.client vanished).isObjectNotFound = true := by decide +kernel
  have plain : ((service.drop { name := ⟨"ops team"⟩ }).run (vanishedSession 5)).1 =
      .error (.failed (.client vanished)) := rfl
  have recorded : stateIdentifier state = .ok ⟨"ops team"⟩ := rfl
  have limit : ContactProvider.scripted.config.limit? = some 60000 := rfl
  rcases absence_told_alike (τ := Script) rfl (replies 5) with ⟨safely, told, -⟩
  rcases absence_told_alike (τ := Script) rfl (replies 70000) with ⟨-, toldLate, -⟩
  refine ⟨replies 5, plain, ?_, ?_, replies 70000, ?_⟩
  · exact (safely (vanishedSession 5) rfl).done.2 (.inr ⟨_, plain, missing⟩)
  · have alike : (⟨.error vanished, 5⟩ : Reply Unit).InTime service.limit ↔
        (⟨.error vanished, 5⟩ : Reply Unit).InTime ContactProvider.scripted.config.limit? := by
      simp [Reply.InTime, limit, service]
    have tells := (told ContactProvider.scripted state (vanishedSession 5) recorded rfl).1 alike
    exact (tells.gone _).2 ⟨_, plain, missing, by decide +kernel⟩
  · apply (toldLate ContactProvider.scripted state (vanishedSession 70000) recorded rfl).2
    simp [Reply.InTime, limit]

end ContactsService

end AlertContacts
