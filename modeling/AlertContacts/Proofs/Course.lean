import AlertContacts.Proofs.Configuration
import AlertContacts.Proofs.Execution

/-!
# Courses

A course is what a contact goes through from its creation to its end: it is created, altered at most once in
each way, and dropped, and it is looked up twice behind each of the first two. `Course.steps` lists what the
client is asked on the way.

A client completes steps when it executes each statement and finds the contact of each lookup
(`Client.Completes`). With a recording client, completed steps and nothing else are on record
(`Client.Completes.recorded`).
-/

namespace AlertContacts

variable {σ : Type}

/-! ### Steps -/

/-- What a client is asked: to execute a statement, or for the contact of a name. -/
inductive Step where
  | execute (statement : Statement)
  | find (identifier : Identifier)
  deriving DecidableEq, Repr

def Step.statement : Step → Statement
  | .execute statement => statement
  | .find identifier => ContactsService.lookup identifier

/-- The texts that a client receives on the way. -/
def Step.texts (steps : List Step) : List String :=
  steps.map fun step => step.statement.sql

namespace Client

/-- A client does what it is asked step by step: it executes the statements and finds the contacts. -/
inductive Completes (client : Client σ) : List Step → σ → σ → Prop where
  | done {state : σ} : Completes client [] state state
  | executed {statement : Statement} {steps : List Step} {before middle after : σ}
      (executes : client.Executes [statement] before middle)
      (others : Completes client steps middle after) :
      Completes client (.execute statement :: steps) before after
  | found {identifier : Identifier} {contact : Contact} {steps : List Step} {before middle after : σ}
      (finds : client.Finds identifier contact before middle)
      (others : Completes client steps middle after) :
      Completes client (.find identifier :: steps) before after

variable {client : Client σ} {steps others : List Step} {before middle after : σ}

/-- Steps that are completed one list behind the other are completed together. -/
theorem Completes.append (completes : client.Completes steps before middle)
    (continues : client.Completes others middle after) :
    client.Completes (steps ++ others) before after := by
  induction completes with
  | done => exact continues
  | executed executes _ ih => exact .executed executes (ih continues)
  | found finds _ ih => exact .found finds (ih continues)

/-- A client that executes statements completes them as steps. -/
theorem Executes.completes {statements : List Statement}
    (executes : client.Executes statements before after) :
    client.Completes (statements.map .execute) before after := by
  induction executes with
  | done => exact .done
  | next valid answers succeeds _ ih => exact .executed (.next valid answers succeeds .done) ih

theorem Finds.completes {identifier : Identifier} {contact : Contact}
    (finds : client.Finds identifier contact before after) :
    client.Completes [.find identifier] before after :=
  .found finds .done

/-- What a client executes breaks no rule, and a lookup never does. -/
theorem Completes.violations_eq (completes : client.Completes steps before after) :
    ∀ step ∈ steps, step.statement.violations = [] := by
  induction completes with
  | done => simp
  | executed executes _ ih =>
      intro step member
      rcases List.mem_cons.1 member with rfl | member
      · exact executes.violations_eq _ (List.mem_singleton_self _)
      · exact ih step member
  | found _ _ ih =>
      intro step member
      rcases List.mem_cons.1 member with rfl | member
      · rfl
      · exact ih step member

/-! ### Steps on record -/

/-- A recording client answers as the client behind it, and puts the text on record. -/
theorem eq_of_ask {α : Type} {sql : String} {answer : σ → Reply α × σ} {before after : Recorded σ}
    {reply : Reply α} (asks : Recorded.ask sql answer before = (reply, after)) :
    answer before.inner = (reply, after.inner) ∧
      after.exchanges.map Exchange.sql = before.exchanges.map Exchange.sql ++ [sql] := by
  cases asks
  exact ⟨rfl, List.map_append⟩

/-- A statement that is executed is on record, and the client behind executed it. -/
theorem Executes.recorded {statement : Statement} {before after : Recorded σ}
    (executes : client.recording.Executes [statement] before after) :
    client.Executes [statement] before.inner after.inner ∧
      after.exchanges.map Exchange.sql = before.exchanges.map Exchange.sql ++ [statement.sql] := by
  cases executes with
  | next valid answers succeeds others =>
      cases others
      rcases eq_of_ask answers with ⟨answered, kept⟩
      exact ⟨.next valid answered succeeds .done, kept⟩

theorem Finds.recorded {identifier : Identifier} {contact : Contact} {before after : Recorded σ}
    (finds : client.recording.Finds identifier contact before after) :
    client.Finds identifier contact before.inner after.inner ∧
      after.exchanges.map Exchange.sql =
        before.exchanges.map Exchange.sql ++ [(ContactsService.lookup identifier).sql] := by
  cases finds with
  | listed lists member decodes named =>
      rcases lists with ⟨reply, answers, succeeds⟩
      rcases eq_of_ask answers with ⟨answered, kept⟩
      exact ⟨.listed ⟨reply, answered, succeeds⟩ member decodes named, kept⟩

/-- What is on record is what the client was asked, in the order of the steps. -/
theorem Completes.recorded {before after : Recorded σ}
    (completes : client.recording.Completes steps before after) :
    client.Completes steps before.inner after.inner ∧
      after.exchanges.map Exchange.sql = before.exchanges.map Exchange.sql ++ Step.texts steps := by
  induction completes with
  | done => exact ⟨.done, (List.append_nil _).symm⟩
  | executed executes _ ih =>
      rcases executes.recorded with ⟨executes, kept⟩
      refine ⟨.executed executes ih.1, ?_⟩
      rw [ih.2, kept, List.append_assoc]
      rfl
  | found finds _ ih =>
      rcases finds.recorded with ⟨finds, kept⟩
      refine ⟨.found finds ih.1, ?_⟩
      rw [ih.2, kept, List.append_assoc]
      rfl

end Client

/-! ### Courses -/

/-- What a contact is created with, and how it is altered before it is dropped. -/
structure Course where
  created : ContactAttributes
  renameTo? : Option Identifier
  set? : Option SetProperties
  /-- Whether the comment is reset. -/
  resets : Bool

namespace Course

/-- The name that the contact has in the end. -/
def target (course : Course) : Identifier :=
  course.renameTo?.getD course.created.identifier

/-- A rename is about the name that the contact was created under, and what follows is about its new name. -/
def alterations (course : Course) : List Statement :=
  course.renameTo?.toList.map (.rename course.created.identifier) ++
    course.set?.toList.map (.assign course.target) ++
      if course.resets then [.reset course.target { comment := true }] else []

def steps (course : Course) : List Step :=
  [.execute (.create course.created.creation), .find course.created.identifier,
      .find course.created.identifier] ++
    course.alterations.map .execute ++
      [.find course.target, .find course.target, .execute (.drop { name := course.target })]

open ContactProvider

/-- The course of a contact that an update leads from one state to another one. -/
def between (created current desired : ContactAttributes) : Course where
  created := created
  renameTo? := if current.name = desired.name then none else some desired.identifier
  set? := if propertiesToSet current desired = {} then none else some (propertiesToSet current desired)
  resets := propertiesToUnset current desired ≠ {}

variable {created current desired : ContactAttributes}

@[simp]
theorem created_between : (between created current desired).created = created := rfl

/-- The course of an update ends under the name that the update settles. -/
theorem target_between : (between created current desired).target =
    settledIdentifier created.identifier current desired := by
  simp only [target, between, settledIdentifier]
  split <;> rfl

theorem alterations_between : (between created current desired).alterations =
    ContactProvider.alterations created.identifier current desired := by
  rw [alterations, target_between, alterations_eq, renames, settles, Statement.forProperties,
    List.append_assoc]
  congr 1
  · simp only [between]
    split <;> rfl
  congr 1
  · simp only [between]
    by_cases assigns : propertiesToSet current desired = {}
    · simp [assigns]
    · simp [assigns]
  · simp only [between]
    by_cases resets : propertiesToUnset current desired = {}
    · simp [resets]
    · simp [propertiesToUnset_of_ne resets]

end Course

end AlertContacts
