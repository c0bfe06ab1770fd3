import AlertContacts.Client.Basic

/-!
# Scripted clients

A scripted client stands in for the platform. It answers from two queues, one for statements without
rows and one for statements with rows, and keeps a log of all statements it receives. A statement
that finds its queue empty succeeds, without rows.
-/

namespace AlertContacts

/-- What a scripted client has to answer, and what it was asked. -/
structure Script where
  execAnswers : List (Except ClientError Unit) := []
  queryAnswers : List (Except ClientError (List Row)) := []
  statements : List String := []
  /-- How long each answer takes, in milliseconds. -/
  delay : Nat := 0

namespace Script

def pushExec (script : Script) (answer : Except ClientError Unit) : Script :=
  { script with execAnswers := script.execAnswers ++ [answer] }

def pushQuery (script : Script) (answer : Except ClientError (List Row)) : Script :=
  { script with queryAnswers := script.queryAnswers ++ [answer] }

def withDelay (script : Script) (milliseconds : Nat) : Script :=
  { script with delay := milliseconds }

def exec (sql : String) (script : Script) : Reply Unit × Script :=
  (⟨script.execAnswers.headD (.ok ()), script.delay⟩,
   { script with
     execAnswers := script.execAnswers.tail
     statements := script.statements ++ [sql] })

def query (sql : String) (script : Script) : Reply (List Row) × Script :=
  (⟨script.queryAnswers.headD (.ok []), script.delay⟩,
   { script with
     queryAnswers := script.queryAnswers.tail
     statements := script.statements ++ [sql] })

def client : Client Script where
  exec := exec
  query := query

def showRowCreatedOn : String := "2024-05-01T12:00:00Z"

def showRowOwner : String := "ACCOUNTADMIN"

def showRow (name email : String) (comment : Option String) : Row :=
  Entries.ofList
    [("created_on", .string showRowCreatedOn), ("name", .string name), ("email", .string email),
     ("comment", .ofOptional comment), ("owner", .string showRowOwner)]

end Script

end AlertContacts
