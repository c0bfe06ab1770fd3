import AlertContacts.Json.Record

/-!
# Diagnostics

What is wrong with a configuration, or worth a warning: a summary, and optionally a longer
explanation and the path of the attribute it is about.
-/

namespace AlertContacts

open Json

inductive Severity where
  | error
  | warning
  deriving DecidableEq, Repr

structure Diagnostic where
  severity : Severity
  summary : String
  detail : Option String := none
  path : Option String := none
  deriving DecidableEq, Repr

namespace Severity

def wireName : Severity → String
  | .error => "error"
  | .warning => "warning"

def label : Severity → String
  | .error => "Error"
  | .warning => "Warning"

def ofName (name : String) : Except DecodeError Severity :=
  if name = "error" then .ok .error
  else if name = "warning" then .ok .warning
  else .error (.unknownVariant name ["error", "warning"])

/-- Reads a severity: its name, or an object with the name as its key and null. -/
def decode : Decoder Severity
  | .string name => ofName name
  | .object [(name, value)] => do
    let severity ← ofName name
    match value with
    | .null => return severity
    | other => .error (.invalidType other.found .nothing)
  | .object _ => .error (.invalidValue .map .oneEntry)
  | other => .error (.invalidType other.found .variant)

end Severity

namespace Diagnostic

def error (summary : String) : Diagnostic where
  severity := .error
  summary := summary

def warning (summary : String) : Diagnostic where
  severity := .warning
  summary := summary

def withDetail (diagnostic : Diagnostic) (detail : String) : Diagnostic :=
  { diagnostic with detail := some detail }

def withPath (diagnostic : Diagnostic) (path : String) : Diagnostic :=
  { diagnostic with path := some path }

def isError (diagnostic : Diagnostic) : Bool :=
  diagnostic.severity = .error

def record : Record Diagnostic :=
  (Record.done Diagnostic.mk)
    |>.and (.required "severity" Severity.decode)
    |>.and (.required "summary" Decoder.string)
    |>.and (.optional "detail" Decoder.string)
    |>.and (.optional "attribute" Decoder.string)

def decode : Decoder Diagnostic :=
  record.decoder "Diagnostic"

/-- A field that is left out when it has no value. -/
def optionalEntry (name : String) (text : Option String) : List (String × Value) :=
  text.elim [] fun text => [(name, .string text)]

def toValue (diagnostic : Diagnostic) : Value :=
  .ofEntries
    ([("severity", .string diagnostic.severity.wireName),
      ("summary", .string diagnostic.summary)] ++
      optionalEntry "detail" diagnostic.detail ++ optionalEntry "attribute" diagnostic.path)

end Diagnostic

end AlertContacts
