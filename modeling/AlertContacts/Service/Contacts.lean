import AlertContacts.Service.Error
import AlertContacts.Service.Session

/-!
# The contacts service

Operations on the contacts of an account. Each operation makes one statement, and sends it only if
it breaks no structural rule, so an operation sends at most one statement. Rows are decoded in order
and the first one that does not decode fails the operation.

`SHOW ... LIKE` takes the name of a contact as a pattern, in which `_` and `%` are wildcards;
`showById` therefore keeps only a row of exactly the name.

An answer that takes longer than the service's limit interrupts the operation: the statement was
sent, but nothing that follows it happens.
-/

namespace AlertContacts

open Json

/-- Why an operation of the service ends without a result. -/
inductive Failure where
  | failed (error : ServiceError)
  | interrupted
  deriving DecidableEq, Repr

def Failure.isObjectNotFound : Failure → Bool
  | .failed error => error.isObjectNotFound
  | .interrupted => false

structure ContactsService (σ : Type) where
  client : Client σ
  logSql : Bool
  limit : Option Nat
  spans : List Span

namespace ContactsService

variable {σ ε α : Type}

def inside (service : ContactsService σ) (span : Span) : ContactsService σ :=
  { service with spans := service.spans ++ [span] }

def on (service : ContactsService σ) (operation : String) (identifier : Identifier) :
    ContactsService σ :=
  service.inside ⟨operation, [("contact", .string identifier.sql)]⟩

def log (service : ContactsService σ) (level : Level) (message : String)
    (fields : Entries Value) : Run (Session σ) ε Unit :=
  Session.log ⟨level, message, fields, service.spans⟩

/-- Whether an answer took longer than the limit. -/
def isOverdue (service : ContactsService σ) (elapsed : Nat) : Bool :=
  service.limit.any (· < elapsed)

def receive (service : ContactsService σ) (ask : σ → Reply α × σ) : Run (Session σ) Failure α :=
  ⟨fun session =>
    let (reply, client) := ask session.client
    (if service.isOverdue reply.elapsed then .error .interrupted
      else reply.result.mapError fun error => .failed (.client error),
     { session with client := client })⟩

/-- The text of a statement that breaks no rule, which is then worth an event. -/
def prepare (service : ContactsService σ) (statement : Statement) :
    Run (Session σ) Failure String := do
  let sql ← Run.ofExcept (statement.checkedSql.mapError .failed)
  service.log (if service.logSql then .info else .debug) "Executing statement"
    [("sql", .string sql)]
  return sql

def execute (service : ContactsService σ) (statement : Statement) :
    Run (Session σ) Failure Unit := do
  let sql ← service.prepare statement
  service.receive (service.client.exec sql)

def fetch (service : ContactsService σ) (statement : Statement) (decode : Decoder α) :
    Run (Session σ) Failure (List α) := do
  let sql ← service.prepare statement
  let rows ← service.receive (service.client.query sql)
  service.log .debug "Query returned" [("rows", .ofNat rows.length)]
  Run.ofExcept ((rows.mapM fun row => decode (.object row)).mapError fun error =>
    .failed (.rowMapping error))

def create (service : ContactsService σ) (request : CreateContact) :
    Run (Session σ) Failure Unit :=
  (service.on "contacts.create" request.name).execute (.create request)

def alter (service : ContactsService σ) (request : AlterContact) : Run (Session σ) Failure Unit :=
  (service.on "contacts.alter" request.name).execute (.alter request)

/-- Removes a contact. Without `IF EXISTS` a missing contact is an error. -/
def drop (service : ContactsService σ) (request : DropContact) : Run (Session σ) Failure Unit :=
  (service.on "contacts.drop" request.name).execute (.drop request)

def dropSafely (service : ContactsService σ) (identifier : Identifier) :
    Run (Session σ) Failure Unit :=
  let service := service.on "contacts.drop_safely" identifier
  (service.drop { name := identifier, ifExists := true }).recover fun failure =>
    if failure.isObjectNotFound then service.log .debug "Contact already absent" []
    else .fail failure

def «show» (service : ContactsService σ) (request : ShowContacts) :
    Run (Session σ) Failure (List Contact) := do
  let rows ← (service.inside ⟨"contacts.show", []⟩).fetch (.list request) ShowRow.decode
  return rows.map Contact.ofRow

/-- The contact of exactly the given name. -/
def showById (service : ContactsService σ) (identifier : Identifier) :
    Run (Session σ) Failure Contact := do
  let service := service.on "contacts.show_by_id" identifier
  let contacts ← service.show { like := some ⟨identifier.name⟩ }
  match contacts.find? (·.name = identifier.name) with
  | some contact => return contact
  | none => .fail (.failed (.objectNotFound identifier.sql))

def showByIdSafely (service : ContactsService σ) (identifier : Identifier) :
    Run (Session σ) Failure (Option Contact) :=
  let service := service.on "contacts.show_by_id_safely" identifier
  (some <$> service.showById identifier).recover fun failure =>
    if failure.isObjectNotFound then pure none else .fail failure

def describe (service : ContactsService σ) (identifier : Identifier) :
    Run (Session σ) Failure (List ContactProperty) := do
  let rows ← (service.on "contacts.describe" identifier).fetch (.describe ⟨identifier⟩)
    DescribeRow.decode
  return rows.map ContactProperty.ofRow

end ContactsService

end AlertContacts
