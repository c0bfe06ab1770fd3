import AlertContacts.Service.Error

/-!
# Provider errors

What a host is told when an operation on a resource fails. Errors of the contacts service are sorted
into the host's classes: a missing contact is `notFound` however the platform signalled it.
-/

namespace AlertContacts

inductive ProviderError where
  | notFound (message : String)
  | validation (message : String)
  | sdk (message : String)
  | configuration (message : String)
  | unknownResource (type : String)
  | serialization (error : Json.DecodeError)
  | deadlineExceeded (message : String)
  | invalidRequest (message : String)
  /-- An update failed after the contact was renamed; `state` replaces the prior state. -/
  | partialUpdate (state : Json.Value) (cause : ProviderError)
  deriving Repr

namespace ProviderError

def message : ProviderError → String
  | .notFound message | .validation message | .sdk message | .configuration message
  | .unknownResource message | .deadlineExceeded message | .invalidRequest message => message
  | .serialization _ => "serialization error (see Debug output)"
  | .partialUpdate _ cause => cause.message

def text : ProviderError → String
  | .notFound message => "Resource not found: " ++ message
  | .validation message => "Validation error: " ++ message
  | .sdk message => "SDK error: " ++ message
  | .configuration message => "Configuration error: " ++ message
  | .unknownResource type => "Unknown resource type: " ++ type
  | .serialization error => "Serialization error: " ++ error.message
  | .deadlineExceeded message => "Deadline exceeded: " ++ message
  | .invalidRequest message => "Invalid request: " ++ message
  | .partialUpdate _ cause => "Update partially applied: " ++ cause.text

/-- The state to record in spite of the error. -/
def partialState? : ProviderError → Option Json.Value
  | .partialUpdate state _ => some state
  | _ => none

def ofService (error : ServiceError) : ProviderError :=
  if error.isObjectNotFound then .notFound error.message
  else
    match error with
    | .validation violations => .validation (Violation.messages violations)
    | .rowMapping error => .serialization error
    | other => .sdk other.message

end ProviderError

end AlertContacts
