import AlertContacts.Proofs.Grammar
import AlertContacts.Service.Contacts

/-!
# Transcripts

What an operation sends, and how it was answered. A recording client passes every statement on to
another client and keeps an `Exchange` for it. Two relations on runs carry the facts about it, each
closed under the ways in which runs are put together:

* `Run.Mirrors`: recording changes neither the outcome of an operation nor its events, so what is
  shown with a recording client holds for every client;
* `Run.Sends`: the exchanges that an operation adds, together with its outcome, have a property.

`Attempted` is the property of statements that are run one after the other until one fails.
-/

namespace AlertContacts

/-- A statement that a client received, with its answer but without the rows. -/
structure Exchange where
  sql : String
  reply : Reply Unit

structure Recorded (σ : Type) where
  inner : σ
  exchanges : List Exchange

variable {σ ε ε' α β : Type}

def Reply.withoutRows (reply : Reply α) : Reply Unit :=
  ⟨reply.result.map fun _ => (), reply.elapsed⟩

def Recorded.ask (sql : String) (answer : σ → Reply α × σ) (recorded : Recorded σ) :
    Reply α × Recorded σ :=
  let (reply, inner) := answer recorded.inner
  (reply, ⟨inner, recorded.exchanges ++ [⟨sql, reply.withoutRows⟩]⟩)

/-- The client that passes statements on and keeps the exchanges. -/
def Client.recording (client : Client σ) : Client (Recorded σ) where
  exec sql := Recorded.ask sql (client.exec sql)
  query sql := Recorded.ask sql (client.query sql)

def ContactsService.recording (service : ContactsService σ) : ContactsService (Recorded σ) :=
  { service with client := service.client.recording }

namespace Session

def recording (session : Session σ) : Session (Recorded σ) :=
  ⟨⟨session.client, []⟩, session.events⟩

def forget (session : Session (Recorded σ)) : Session σ :=
  ⟨session.client.inner, session.events⟩

end Session

namespace Run

/-! ### Recording changes nothing else -/

/-- A run with a recording client does what a run with the client itself does. -/
def Mirrors (recorded : Run (Session (Recorded σ)) ε α) (plain : Run (Session σ) ε α) : Prop :=
  ∀ session, plain.run session.forget =
    ((recorded.run session).1, (recorded.run session).2.forget)

section Mirrors

theorem Mirrors.ofExcept (outcome : Except ε α) :
    (ofExcept outcome : Run (Session (Recorded σ)) ε α).Mirrors (ofExcept outcome) := by
  intro session
  rfl

theorem Mirrors.log (event : Event) :
    (Session.log event : Run (Session (Recorded σ)) ε Unit).Mirrors (Session.log event) := by
  intro session
  rfl

/-- Recording goes through a sequence of runs. -/
theorem Mirrors.bind {first : Run (Session (Recorded σ)) ε α} {plain : Run (Session σ) ε α}
    (mirrors : first.Mirrors plain) {next : α → Run (Session (Recorded σ)) ε β}
    {plainNext : α → Run (Session σ) ε β}
    (continues : ∀ result, (next result).Mirrors (plainNext result)) :
    (first >>= next).Mirrors (plain >>= plainNext) := by
  intro session
  rw [run_bind, run_bind, mirrors session]
  cases first.run session with
  | mk outcome after =>
      cases outcome with
      | error error => rfl
      | ok result => exact continues result after

theorem Mirrors.map {operation : Run (Session (Recorded σ)) ε α} {plain : Run (Session σ) ε α}
    (mirrors : operation.Mirrors plain) (function : α → β) :
    (function <$> operation).Mirrors (function <$> plain) :=
  mirrors.bind fun result => .ofExcept (.ok (function result))

/-- Recording goes through a run with its handler. -/
theorem Mirrors.recover {first : Run (Session (Recorded σ)) ε α} {plain : Run (Session σ) ε α}
    (mirrors : first.Mirrors plain) {handle : ε → Run (Session (Recorded σ)) ε' α}
    {plainHandle : ε → Run (Session σ) ε' α}
    (handles : ∀ error, (handle error).Mirrors (plainHandle error)) :
    (first.recover handle).Mirrors (plain.recover plainHandle) := by
  intro session
  rw [run_recover, run_recover, mirrors session]
  cases first.run session with
  | mk outcome after =>
      cases outcome with
      | error error => exact handles error after
      | ok result => rfl

end Mirrors

/-! ### What a run sends -/

/-- The outcome of a run and the exchanges that it adds have a property. -/
def Sends (operation : Run (Session (Recorded σ)) ε α)
    (property : Except ε α → List Exchange → Prop) : Prop :=
  ∀ session, ∃ sent,
    (operation.run session).2.client.exchanges = session.client.exchanges ++ sent ∧
      property (operation.run session).1 sent

section Sends

variable {property : Except ε α → List Exchange → Prop}

theorem Sends.ofExcept {outcome : Except ε α} (holds : property outcome []) :
    (ofExcept outcome : Run (Session (Recorded σ)) ε α).Sends property := by
  intro session
  exact ⟨[], (List.append_nil _).symm, holds⟩

theorem Sends.ofExcept_append {outcome : Except ε α} {before : List Exchange}
    (holds : property outcome before) :
    (Run.ofExcept outcome : Run (Session (Recorded σ)) ε α).Sends fun outcome sent =>
      property outcome (before ++ sent) := by
  apply Sends.ofExcept
  rwa [List.append_nil]

theorem Sends.weaken {operation : Run (Session (Recorded σ)) ε α}
    {stronger : Except ε α → List Exchange → Prop} (sends : operation.Sends stronger)
    (implies : ∀ outcome sent, stronger outcome sent → property outcome sent) :
    operation.Sends property := by
  intro session
  rcases sends session with ⟨sent, added, holds⟩
  exact ⟨sent, added, implies _ sent holds⟩

/-- A sequence sends what its first part sends, and if that succeeds what follows sends behind it. -/
theorem Sends.bind {first : Run (Session (Recorded σ)) ε α}
    {next : α → Run (Session (Recorded σ)) ε β} {property : Except ε β → List Exchange → Prop}
    {middle : Except ε α → List Exchange → Prop} (sends : first.Sends middle)
    (fails : ∀ error sent, middle (.error error) sent → property (.error error) sent)
    (continues : ∀ result before, middle (.ok result) before →
      (next result).Sends fun outcome sent => property outcome (before ++ sent)) :
    (first >>= next).Sends property := by
  intro session
  rcases sends session with ⟨before, added, holds⟩
  rw [run_bind]
  generalize first.run session = state at added holds ⊢
  rcases state with ⟨error | result, after⟩
  · exact ⟨before, added, fails error before holds⟩
  · rcases continues result before holds after with ⟨sent, addedNext, holdsNext⟩
    refine ⟨before ++ sent, ?_, holdsNext⟩
    rw [addedNext, added, List.append_assoc]

/-- A check in front of a run sends nothing, and if it fails the run does not start. -/
theorem Sends.ofExcept_bind {outcome : Except ε α} {next : α → Run (Session (Recorded σ)) ε β}
    {property : Except ε β → List Exchange → Prop}
    (fails : ∀ error, outcome = .error error → property (.error error) [])
    (continues : ∀ result, outcome = .ok result → (next result).Sends property) :
    (Run.ofExcept outcome >>= next).Sends property := by
  cases outcome with
  | error error => exact .ofExcept (fails error rfl)
  | ok result => exact continues result rfl

theorem Sends.log {event : Event} {property : Except ε Unit → List Exchange → Prop}
    (holds : property (.ok ()) []) :
    (Session.log event : Run (Session (Recorded σ)) ε Unit).Sends property := by
  intro session
  exact ⟨[], (List.append_nil _).symm, holds⟩

theorem Sends.log_bind {event : Event} {next : Unit → Run (Session (Recorded σ)) ε β}
    {property : Except ε β → List Exchange → Prop} (continues : (next ()).Sends property) :
    (Session.log event >>= next).Sends property := by
  intro session
  exact continues ⟨session.client, session.events ++ [event]⟩

theorem Sends.map {operation : Run (Session (Recorded σ)) ε α} {function : α → β}
    {property : Except ε β → List Exchange → Prop}
    (sends : operation.Sends fun outcome sent => property (outcome.map function) sent) :
    (function <$> operation).Sends property := by
  refine sends.bind ?_ ?_
  · intro error sent holds
    exact holds
  · intro result before holds
    change (Run.ofExcept (.ok (function result))).Sends _
    exact .ofExcept_append holds

/-- A run that fails sends what it has sent, and behind it what its handler sends. -/
theorem Sends.recover {first : Run (Session (Recorded σ)) ε α}
    {handle : ε → Run (Session (Recorded σ)) ε' α} {property : Except ε' α → List Exchange → Prop}
    {middle : Except ε α → List Exchange → Prop} (sends : first.Sends middle)
    (succeeds : ∀ result sent, middle (.ok result) sent → property (.ok result) sent)
    (handles : ∀ error before, middle (.error error) before →
      (handle error).Sends fun outcome sent => property outcome (before ++ sent)) :
    (first.recover handle).Sends property := by
  intro session
  rcases sends session with ⟨before, added, holds⟩
  rw [run_recover]
  generalize first.run session = state at added holds ⊢
  rcases state with ⟨error | result, after⟩
  · rcases handles error before holds after with ⟨sent, addedNext, holdsNext⟩
    refine ⟨before ++ sent, ?_, holdsNext⟩
    rw [addedNext, added, List.append_assoc]
  · exact ⟨before, added, succeeds result before holds⟩

end Sends

end Run

/-! ### Statements run one after the other -/

/-- An exchange succeeded when the answer was a success that came within the limit. -/
def Exchange.Succeeded (limit : Option Nat) (exchange : Exchange) : Prop :=
  exchange.reply.result = .ok () ∧ ∀ milliseconds ∈ limit, exchange.reply.elapsed ≤ milliseconds

instance (limit : Option Nat) (exchange : Exchange) : Decidable (exchange.Succeeded limit) :=
  inferInstanceAs (Decidable (_ ∧ _))

/-- A statement was executed when it breaks no rule, and an exchange about it succeeded. -/
def Executed (limit : Option Nat) (exchanges : List Exchange) (statement : Statement) : Prop :=
  statement.violations = [] ∧
    ∃ exchange ∈ exchanges, exchange.sql = statement.sql ∧ exchange.Succeeded limit

instance (limit : Option Nat) (exchanges : List Exchange) (statement : Statement) :
    Decidable (Executed limit exchanges statement) :=
  inferInstanceAs (Decidable (_ ∧ _))

/-- A statement was sent once, and nothing else was sent. -/
def SentOnce (statement : Statement) (sent : List Exchange) : Prop :=
  ∃ exchange, sent = [exchange] ∧ exchange.sql = statement.sql

/--
Statements are run in order until one does not succeed. These are the exchanges, and whether all of
the statements succeeded; a statement that breaks a rule is not sent.
-/
inductive Attempted (limit : Option Nat) : List Statement → List Exchange → Bool → Prop where
  | all : Attempted limit [] [] true
  | refused {statement : Statement} {statements : List Statement}
      (broken : statement.violations ≠ []) : Attempted limit (statement :: statements) [] false
  | failed {statement : Statement} {statements : List Statement} {exchange : Exchange}
      (valid : statement.violations = []) (text : exchange.sql = statement.sql)
      (fails : ¬exchange.Succeeded limit) :
      Attempted limit (statement :: statements) [exchange] false
  | next {statement : Statement} {statements : List Statement} {exchange : Exchange}
      {sent : List Exchange} {succeeded : Bool}
      (valid : statement.violations = []) (text : exchange.sql = statement.sql)
      (succeeds : exchange.Succeeded limit) (others : Attempted limit statements sent succeeded) :
      Attempted limit (statement :: statements) (exchange :: sent) succeeded

namespace Attempted

variable {limit : Option Nat} {statements others : List Statement} {sent after : List Exchange}
  {succeeded : Bool}

/-- Statements behind one that did not succeed are not sent. -/
theorem stopped (attempted : Attempted limit statements sent false) (others : List Statement) :
    Attempted limit (statements ++ others) sent false := by
  generalize result : false = succeeded at attempted
  induction attempted with
  | all => cases result
  | refused broken => exact .refused broken
  | failed valid text fails => exact .failed valid text fails
  | next valid text succeeds _ ih => exact .next valid text succeeds (ih result)

/-- Statements that all succeeded are followed by what comes of the next ones. -/
theorem append (attempted : Attempted limit statements sent true)
    (continued : Attempted limit others after succeeded) :
    Attempted limit (statements ++ others) (sent ++ after) succeeded := by
  generalize result : true = all at attempted
  induction attempted with
  | all => exact continued
  | refused _ => cases result
  | failed _ _ _ => cases result
  | next valid text succeeds _ ih => exact .next valid text succeeds (ih result)

/-- What is sent is the text of a statement that breaks no rule. -/
theorem exists_statement (attempted : Attempted limit statements sent succeeded)
    {exchange : Exchange} (member : exchange ∈ sent) :
    ∃ statement ∈ statements, statement.violations = [] ∧ exchange.sql = statement.sql := by
  induction attempted with
  | all => cases member
  | refused _ => cases member
  | @failed statement _ _ valid text _ =>
      rw [List.mem_singleton.1 member]
      exact ⟨statement, List.mem_cons_self .., valid, text⟩
  | @next statement _ _ _ _ valid text _ _ ih =>
      rcases List.mem_cons.1 member with rfl | member
      · exact ⟨statement, List.mem_cons_self .., valid, text⟩
      · rcases ih member with ⟨other, otherMember, otherFacts⟩
        exact ⟨other, List.mem_cons_of_mem _ otherMember, otherFacts⟩

/--
An executed statement is, by its text, one of those that were attempted, and where the attempt
failed another one is behind it.
-/
theorem split_of_executed (attempted : Attempted limit statements sent succeeded)
    {statement : Statement} (executed : Executed limit sent statement) :
    ∃ before other after, statements = before ++ other :: after ∧ other.violations = [] ∧
      other.sql = statement.sql ∧ (succeeded = false → after ≠ []) := by
  induction attempted with
  | all => simp [Executed] at executed
  | refused _ => simp [Executed] at executed
  | failed _ _ fails =>
      rcases executed with ⟨-, exchange, member, -, succeeds⟩
      rw [List.mem_singleton.1 member] at succeeds
      exact absurd succeeds fails
  | @next first statements _ _ _ valid text _ others ih =>
      rcases executed with ⟨statementValid, exchange, member, same, succeeds⟩
      rcases List.mem_cons.1 member with rfl | member
      · refine ⟨[], first, statements, rfl, valid, text.symm.trans same, ?_⟩
        rintro rfl rfl
        cases others
      · rcases ih ⟨statementValid, exchange, member, same, succeeds⟩ with
          ⟨before, other, after, rfl, facts⟩
        exact ⟨first :: before, other, after, rfl, facts⟩

end Attempted

/-! ### What the service sends -/

theorem Statement.checkedSql_of_broken {statement : Statement} (broken : statement.violations ≠ []) :
    statement.checkedSql = .error (.validation statement.violations) := by
  rw [checkedSql, Violation.check, if_neg (by simpa using broken)]
  rfl

namespace ContactsService

open Json

section broken

variable (service : ContactsService σ) {statement : Statement}
  (broken : statement.violations ≠ []) (session : Session σ)

include broken

/-- A broken rule ends an operation before its statement gets to the client. -/
theorem run_prepare_of_broken : (service.prepare statement).run session =
    (.error (.failed (.validation statement.violations)), session) := by
  rw [prepare, Statement.checkedSql_of_broken broken]
  rfl

theorem run_execute_of_broken : (service.execute statement).run session =
    (.error (.failed (.validation statement.violations)), session) := by
  rw [execute, Run.run_bind, service.run_prepare_of_broken broken]

theorem run_fetch_of_broken (decode : Decoder α) : (service.fetch statement decode).run session =
    (.error (.failed (.validation statement.violations)), session) := by
  rw [fetch, Run.run_bind, service.run_prepare_of_broken broken]

end broken

theorem mirrors_receive (service : ContactsService σ) (sql : String) (answer : σ → Reply α × σ) :
    (service.recording.receive (Recorded.ask sql answer)).Mirrors (service.receive answer) := by
  intro session
  rfl

theorem mirrors_prepare (service : ContactsService σ) (statement : Statement) :
    (service.recording.prepare statement).Mirrors (service.prepare statement) := by
  refine .bind (.ofExcept _) ?_
  intro sql
  refine .bind (.log _) ?_
  intro _
  exact .ofExcept (.ok sql)

theorem mirrors_execute (service : ContactsService σ) (statement : Statement) :
    (service.recording.execute statement).Mirrors (service.execute statement) := by
  refine .bind (service.mirrors_prepare statement) ?_
  intro sql
  exact service.mirrors_receive sql (service.client.exec sql)

theorem mirrors_fetch (service : ContactsService σ) (statement : Statement) (decode : Decoder α) :
    (service.recording.fetch statement decode).Mirrors (service.fetch statement decode) := by
  refine .bind (service.mirrors_prepare statement) ?_
  intro sql
  refine .bind (service.mirrors_receive sql (service.client.query sql)) ?_
  intro rows
  refine .bind (.log _) ?_
  intro _
  exact .ofExcept _

theorem mirrors_showById (service : ContactsService σ) (identifier : Identifier) :
    (service.recording.showById identifier).Mirrors (service.showById identifier) := by
  refine .bind (.bind (mirrors_fetch _ _ _) fun rows => .ofExcept (.ok _)) ?_
  intro contacts
  split
  · exact .ofExcept (.ok _)
  · exact .ofExcept (.error _)

theorem mirrors_showByIdSafely (service : ContactsService σ) (identifier : Identifier) :
    (service.recording.showByIdSafely identifier).Mirrors (service.showByIdSafely identifier) := by
  have shown := (service.on "contacts.show_by_id_safely" identifier).mirrors_showById identifier
  refine .recover (shown.map some) ?_
  intro failure
  split
  · exact .ofExcept (.ok _)
  · exact .ofExcept (.error _)

theorem isOverdue_eq_false_iff {service : ContactsService σ} {elapsed : Nat} :
    service.isOverdue elapsed = false ↔ ∀ milliseconds ∈ service.limit, elapsed ≤ milliseconds := by
  rw [isOverdue]
  cases service.limit with
  | none => simp
  | some milliseconds => simp

/-- Receiving an answer leaves one exchange, and succeeds as the exchange does. -/
theorem sends_receive (service : ContactsService σ) (sql : String) (answer : σ → Reply α × σ) :
    (service.recording.receive (Recorded.ask sql answer)).Sends fun outcome sent =>
      ∃ exchange, sent = [exchange] ∧ exchange.sql = sql ∧
        (outcome.isOk = true ↔ exchange.Succeeded service.limit) := by
  intro session
  refine ⟨[⟨sql, (answer session.client.inner).1.withoutRows⟩], rfl, _, rfl, rfl, ?_⟩
  rw [Exchange.Succeeded, ← isOverdue_eq_false_iff]
  have outcome : ((service.recording.receive (Recorded.ask sql answer)).run session).1 =
      if service.isOverdue (answer session.client.inner).1.elapsed then .error .interrupted
      else (answer session.client.inner).1.result.mapError fun error => .failed (.client error) := rfl
  rw [outcome, Reply.withoutRows]
  generalize (answer session.client.inner).1 = reply
  cases late : service.isOverdue reply.elapsed with
  | true => simp [Except.isOk, Except.toBool]
  | false =>
      cases reply.result with
      | error error => simp [Except.isOk, Except.toBool, Except.mapError, Except.map]
      | ok rows => simp [Except.isOk, Except.toBool, Except.mapError, Except.map]

/-- Preparing a statement sends nothing, and fails if a rule is broken. -/
theorem sends_prepare (service : ContactsService σ) (statement : Statement) :
    (service.recording.prepare statement).Sends fun outcome sent => sent = [] ∧
      (statement.violations = [] ∧ outcome = .ok statement.sql ∨
        statement.violations ≠ [] ∧ outcome.isOk = false) := by
  rw [prepare]
  by_cases valid : statement.violations = []
  · rw [Statement.checkedSql_of_valid valid]
    refine .ofExcept_bind (by rintro failure ⟨⟩) ?_
    rintro sql ⟨rfl⟩
    exact .log_bind (.ofExcept ⟨rfl, .inl ⟨valid, rfl⟩⟩)
  · rw [Statement.checkedSql_of_broken valid]
    refine .ofExcept_bind ?_ (by rintro sql ⟨⟩)
    rintro failure ⟨rfl⟩
    exact ⟨rfl, .inr ⟨valid, rfl⟩⟩

/-- Executing a statement is an attempt at it alone. -/
theorem sends_execute (service : ContactsService σ) (statement : Statement) :
    (service.recording.execute statement).Sends fun outcome sent =>
      Attempted service.limit [statement] sent outcome.isOk := by
  refine .bind (service.sends_prepare statement) ?_ ?_
  · rintro failure sent ⟨rfl, ⟨-, made⟩ | ⟨broken, -⟩⟩
    · cases made
    · exact .refused broken
  · rintro sql before ⟨rfl, ⟨valid, made⟩ | ⟨-, made⟩⟩
    · cases made
      refine (service.sends_receive statement.sql (service.client.exec statement.sql)).weaken ?_
      rintro outcome sent ⟨exchange, rfl, text, succeeds⟩
      cases received : outcome.isOk with
      | true => exact .next valid text (succeeds.1 received) .all
      | false => exact .failed valid text fun done => by simp [succeeds.2 done] at received
    · cases made

/-- Fetching rows sends the statement once, whatever comes of the rows. -/
theorem sends_fetch (service : ContactsService σ) {statement : Statement}
    (valid : statement.violations = []) (decode : Decoder α) :
    (service.recording.fetch statement decode).Sends fun _ sent => SentOnce statement sent := by
  refine .bind (service.sends_prepare statement) ?_ ?_
  · rintro failure sent ⟨-, ⟨-, made⟩ | ⟨broken, -⟩⟩
    · cases made
    · exact absurd valid broken
  · rintro sql before ⟨rfl, ⟨-, made⟩ | ⟨broken, -⟩⟩
    · cases made
      refine .bind (service.sends_receive statement.sql (service.client.query statement.sql)) ?_ ?_
      · rintro failure sent ⟨exchange, rfl, text, -⟩
        exact ⟨exchange, rfl, text⟩
      · rintro rows sent ⟨exchange, rfl, text, -⟩
        exact .log_bind (.ofExcept ⟨exchange, rfl, text⟩)
    · exact absurd valid broken

def lookup (identifier : Identifier) : Statement :=
  .list { like := some ⟨identifier.name⟩ }

/-- A lookup sends the one listing, whatever it finds. -/
theorem sends_showById (service : ContactsService σ) (identifier : Identifier) :
    (service.recording.showById identifier).Sends fun _ sent =>
      SentOnce (lookup identifier) sent := by
  have valid : (lookup identifier).violations = [] := rfl
  have fetches := ((service.on "contacts.show_by_id" identifier).inside
    ⟨"contacts.show", []⟩).sends_fetch valid ShowRow.decode
  have lists : ((service.recording.on "contacts.show_by_id" identifier).show
      { like := some ⟨identifier.name⟩ }).Sends fun _ sent => SentOnce (lookup identifier) sent :=
    .map fetches
  refine lists.bind ?_ ?_
  · intro failure sent sends
    exact sends
  · intro contacts before sends
    split
    · exact .ofExcept_append sends
    · exact .ofExcept_append sends

theorem sends_showByIdSafely (service : ContactsService σ) (identifier : Identifier) :
    (service.recording.showByIdSafely identifier).Sends fun _ sent =>
      SentOnce (lookup identifier) sent := by
  have shows := (service.on "contacts.show_by_id_safely" identifier).sends_showById identifier
  have finds : (some <$> (service.recording.on "contacts.show_by_id_safely" identifier).showById
      identifier).Sends fun _ sent => SentOnce (lookup identifier) sent := .map shows
  refine finds.recover ?_ ?_
  · intro contact sent sends
    exact sends
  · intro failure before sends
    split
    · exact .ofExcept_append sends
    · exact .ofExcept_append sends

end ContactsService

end AlertContacts
