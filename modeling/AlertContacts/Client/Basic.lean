import AlertContacts.Client.Error
import AlertContacts.Contact.Row

/-!
# Clients

A client carries statements to the platform and answers back. It has a state of its own, which each
statement may change: connections, the platform's tables, or the answers of a script. An answer
comes with the time that it took, so that a caller with a time limit can tell whether it came in
time.
-/

namespace AlertContacts

structure Reply (α : Type) where
  result : Except ClientError α
  /-- How long the answer took, in milliseconds. -/
  elapsed : Nat

/-- A way to the platform with a state `σ`. -/
structure Client (σ : Type) where
  exec : String → σ → Reply Unit × σ
  query : String → σ → Reply (List Row) × σ

end AlertContacts
