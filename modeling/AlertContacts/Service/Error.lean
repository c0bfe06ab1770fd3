import AlertContacts.Client.Error
import AlertContacts.Contact.Statement
import AlertContacts.Json.DecodeError

/-!
# Service errors

What goes wrong between a request and its result: the options are missing or break structural
rules, the contact is missing, the client fails, or a row does not have the expected shape.
-/

namespace AlertContacts

inductive ServiceError where
  | missingOptions
  | validation (violations : List Violation)
  | objectNotFound (name : String)
  | client (error : ClientError)
  | rowMapping (error : Json.DecodeError)
  deriving DecidableEq, Repr

namespace ServiceError

def isObjectNotFound : ServiceError → Bool
  | .objectNotFound _ => true
  | .client error => error.isObjectNotFound
  | _ => false

def message : ServiceError → String
  | .missingOptions => "options cannot be nil"
  | .validation violations => Violation.messages violations
  | .objectNotFound name => "object does not exist or not authorized: " ++ name
  | .client error => error.message
  | .rowMapping error => "failed to map result row: " ++ error.message

end ServiceError

def Violation.check (violations : List Violation) : Except ServiceError Unit :=
  if violations.isEmpty then .ok () else .error (.validation violations)

namespace Statement

def checkedSql (statement : Statement) : Except ServiceError String := do
  Violation.check statement.violations
  return statement.sql

/-- The text of a statement that is there and breaks no rule. -/
def renderGiven : Option Statement → Except ServiceError String
  | none => .error .missingOptions
  | some statement => statement.checkedSql

end Statement

end AlertContacts
