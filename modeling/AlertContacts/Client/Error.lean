import AlertContacts.Text.Substring

/-!
# Client errors

What goes wrong between a client and the platform. That an object is missing is told in three ways:
by the client itself, by the platform's error code, or by the platform's words;
`ClientError.isObjectNotFound` recognises all three.
-/

namespace AlertContacts

/-- The platform's code for an object that does not exist or is not visible. -/
def objectNotFoundCode : Int := 2003

def objectNotFoundWords : String := "does not exist or not authorized"

inductive ClientError where
  /-- The client already knows that the object is missing. -/
  | objectNotFound (message : String)
  | execution (code : Option Int) (message : String)
  /-- The statement never reached the platform. -/
  | connection (message : String)
  deriving DecidableEq, Repr

namespace ClientError

def isObjectNotFound : ClientError → Bool
  | .objectNotFound _ => true
  | .execution code message =>
    code = some objectNotFoundCode || Text.contains message objectNotFoundWords
  | .connection _ => false

def message : ClientError → String
  | .objectNotFound message => "object does not exist or not authorized: " ++ message
  | .execution none message => "SQL execution error: " ++ message
  | .execution (some code) message => "SQL execution error " ++ toString code ++ ": " ++ message
  | .connection message => "connection error: " ++ message

end ClientError

end AlertContacts
