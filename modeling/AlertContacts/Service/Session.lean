import AlertContacts.Client.Basic
import AlertContacts.Run

/-!
# Sessions

What a run of operations changes: the state of the client, and the log of events. Events carry the
spans they were emitted in, from the outermost to the innermost.
-/

namespace AlertContacts

inductive Level where
  | debug
  | info
  | warn
  | error
  deriving DecidableEq, Repr

structure Span where
  name : String
  fields : Entries Json.Value := []

structure Event where
  level : Level
  message : String
  fields : Entries Json.Value
  /-- The work it happened in, outermost first. -/
  spans : List Span

structure Session (σ : Type) where
  client : σ
  events : List Event := []

def Session.log {σ ε : Type} (event : Event) : Run (Session σ) ε Unit :=
  .modify fun session => { session with events := session.events ++ [event] }

end AlertContacts
