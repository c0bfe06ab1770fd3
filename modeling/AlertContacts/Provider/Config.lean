import AlertContacts.Provider.Error
import AlertContacts.Schema.Basic

/-!
# Provider configuration

Connections are the client's business. What is left to configure is how long a statement may take,
in whole seconds with 0 for no limit, and whether statements are logged.
-/

namespace AlertContacts

open Json

def defaultStatementTimeoutSecs : UInt64 := 60

structure ProviderConfig where
  /-- How many seconds a statement may take; 0 for no limit. -/
  statementTimeoutSecs : UInt64 := defaultStatementTimeoutSecs
  /-- Whether statements are worth an event of level `info`. -/
  logSql : Bool := false
  deriving DecidableEq, Repr

namespace ProviderConfig

/-- A configuration with a limit given in nanoseconds; a part of a second counts as a whole one. -/
def withStatementTimeout (config : ProviderConfig) (nanoseconds : Nat) : ProviderConfig :=
  { config with
    statementTimeoutSecs :=
      UInt64.ofNat (min ((nanoseconds + 999999999) / 1000000000) (Nat.pow 2 64 - 1)) }

def withSqlLogging (config : ProviderConfig) (logSql : Bool) : ProviderConfig :=
  { config with logSql := logSql }

def timeoutSecs? (config : ProviderConfig) : Option Nat :=
  if config.statementTimeoutSecs = 0 then none else some config.statementTimeoutSecs.toNat

def record : Record ProviderConfig :=
  (Record.done ProviderConfig.mk)
    |>.and (.withDefault "statement_timeout_secs" Decoder.unsigned defaultStatementTimeoutSecs)
    |>.and (.withDefault "log_sql" Decoder.boolean false)

def decode : Decoder ProviderConfig :=
  record.strictDecoder "ProviderConfig"

def toValue (config : ProviderConfig) : Value :=
  .ofEntries
    [("statement_timeout_secs", .number (.natural config.statementTimeoutSecs)),
     ("log_sql", .boolean config.logSql)]

/-- The configuration in a block of settings; null stands for the defaults. -/
def ofValue : Value → Except ProviderError ProviderConfig
  | .null => .ok {}
  | settings => (decode settings).mapError fun error => .configuration error.message

def schema : Schema where
  attributes := Entries.ofList
    [("statement_timeout_secs", Attribute.optionalInt64.withDescription
       "Seconds to wait for each statement before giving up. 0 disables the limit."),
     ("log_sql", Attribute.optionalBool.withDescription
       "Log every statement sent to the platform at info level.")]

end ProviderConfig

end AlertContacts
