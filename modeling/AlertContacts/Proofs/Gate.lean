import AlertContacts.Client.Script
import AlertContacts.Proofs.Lookup

/-!
# The gate in front of the client

`Statement.Breaks` says which structural rules a statement breaks, without the checks that find them. The
checks find each of them once, in the order of `Statement.rules` (`Statement.mem_violations_iff`).

An operation of the service sends its statement exactly when no rule is broken. A broken rule leaves the
client and the log as they were; otherwise the client gets the one statement, and its one answer settles
how the operation ends (`ContactsService.perform_gated`).
-/

namespace AlertContacts

open Json

variable {σ ε α β : Type}

/-! ### Checks -/

theorem Identifier.isValid_eq_false_iff {identifier : Identifier} :
    identifier.isValid = false ↔ identifier.name = "" := by
  simp [isValid]

namespace Violation

/-- A rule reports its violation exactly if it is broken. -/
theorem mem_unless_iff {rule : Bool} {violation broken : Violation} :
    broken ∈ Violation.unless rule violation ↔ rule = false ∧ broken = violation := by
  cases rule <;> simp [Violation.unless]

/-- A rule reports at most its own violation. -/
theorem unless_sublist (rule : Bool) (violation : Violation) :
    (Violation.unless rule violation).Sublist [violation] := by
  cases rule <;> simp [Violation.unless]

variable {group : Option α} {check : α → List Violation}

/-- A group that is not given is not checked. -/
theorem mem_elim_iff {broken : Violation} :
    broken ∈ group.elim [] check ↔ ∃ given, group = some given ∧ broken ∈ check given := by
  cases group <;> simp

/-- A group that may be missing reports no more than the rules for what it holds. -/
theorem elim_sublist {rules : List Violation} (checks : ∀ given, (check given).Sublist rules) :
    (group.elim [] check).Sublist rules := by
  cases group with
  | none => exact List.nil_sublist rules
  | some given => exact checks given

end Violation

theorem SetProperties.mem_violations_iff {set : SetProperties} {violation : Violation} :
    violation ∈ set.violations ↔ (set.email = none ∧ set.comment = none) ∧
      violation = .atLeastOneOf "AlterContactOptions.Set" ["Email", "Comment"] := by
  simp [violations, Violation.mem_unless_iff, anySet]

theorem UnsetProperties.mem_violations_iff {unset : UnsetProperties} {violation : Violation} :
    violation ∈ unset.violations ↔ unset.comment = false ∧
      violation = .atLeastOneOf "AlterContactOptions.Unset" ["Comment"] := by
  simp [violations, Violation.mem_unless_iff, anySet]

/-- A create is wrong if its name is empty, or if both ways to treat an existing contact are asked for. -/
theorem CreateContact.mem_violations_iff {create : CreateContact} {violation : Violation} :
    violation ∈ create.violations ↔
      create.name.name = "" ∧ violation = .invalidIdentifier "CreateContactOptions" "name" ∨
        (create.ifNotExists = true ∧ create.orReplace = true) ∧
          violation = .conflictingFields "CreateContactOptions" ["IfNotExists", "OrReplace"] := by
  simp [violations, Violation.mem_unless_iff, Identifier.isValid_eq_false_iff, everySet]

/-- Exactly one of set, unset and rename is given. -/
def AlterContact.HasOneAction (alter : AlterContact) : Prop :=
  (alter.set ≠ none ∧ alter.unset = none ∧ alter.renameTo = none) ∨
    (alter.set = none ∧ alter.unset ≠ none ∧ alter.renameTo = none) ∨
      (alter.set = none ∧ alter.unset = none ∧ alter.renameTo ≠ none)

theorem AlterContact.exactlyOne_eq_false_iff (alter : AlterContact) :
    exactlyOne [alter.set.isSome, alter.unset.isSome, alter.renameTo.isSome] = false ↔
      ¬alter.HasOneAction := by
  rcases alter with ⟨name, ifExists, _ | set, _ | unset, _ | target⟩ <;>
    simp [HasOneAction, exactlyOne]

/-- An alteration is wrong by its name, by the number of its actions, or by what is wrong with one of them. -/
theorem AlterContact.mem_violations_iff {alter : AlterContact} {violation : Violation} :
    violation ∈ alter.violations ↔
      (((alter.name.name = "" ∧ violation = .invalidIdentifier "AlterContactOptions" "name" ∨
          ¬alter.HasOneAction ∧
            violation = .exactlyOneOf "AlterContactOptions" ["Set", "Unset", "RenameTo"]) ∨
        ∃ target, alter.renameTo = some target ∧ target.name = "" ∧
          violation = .invalidIdentifier "AlterContactOptions" "RenameTo") ∨
        ∃ set, alter.set = some set ∧ violation ∈ set.violations) ∨
        ∃ unset, alter.unset = some unset ∧ violation ∈ unset.violations := by
  simp only [violations, List.mem_append, Violation.mem_unless_iff, Violation.mem_elim_iff,
    Identifier.isValid_eq_false_iff, exactlyOne_eq_false_iff]

namespace Statement

/-- The contact that a statement names, with the name of the statement's options. -/
def named? : Statement → Option (String × Identifier)
  | .create options => some ("CreateContactOptions", options.name)
  | .alter options => some ("AlterContactOptions", options.name)
  | .drop options => some ("DropContactOptions", options.name)
  | .list _ => none
  | .describe options => some ("DescribeContactOptions", options.name)

/-- A statement breaks a structural rule. -/
inductive Breaks : Statement → Violation → Prop where
  | unnamed {statement : Statement} {options : String} {contact : Identifier}
      (names : statement.named? = some (options, contact)) (empty : contact.name = "") :
      Breaks statement (.invalidIdentifier options "name")
  | conflicting {options : CreateContact} (keeps : options.ifNotExists = true)
      (replaces : options.orReplace = true) :
      Breaks (.create options)
        (.conflictingFields "CreateContactOptions" ["IfNotExists", "OrReplace"])
  | notOneAction {options : AlterContact} (several : ¬options.HasOneAction) :
      Breaks (.alter options) (.exactlyOneOf "AlterContactOptions" ["Set", "Unset", "RenameTo"])
  | unnamedTarget {options : AlterContact} {target : Identifier}
      (renames : options.renameTo = some target) (empty : target.name = "") :
      Breaks (.alter options) (.invalidIdentifier "AlterContactOptions" "RenameTo")
  | emptySet {options : AlterContact} {set : SetProperties} (sets : options.set = some set)
      (email : set.email = none) (comment : set.comment = none) :
      Breaks (.alter options) (.atLeastOneOf "AlterContactOptions.Set" ["Email", "Comment"])
  | emptyUnset {options : AlterContact} {unset : UnsetProperties}
      (unsets : options.unset = some unset) (comment : unset.comment = false) :
      Breaks (.alter options) (.atLeastOneOf "AlterContactOptions.Unset" ["Comment"])

/-- The rules for a statement, in the order in which they are checked. -/
def rules : Statement → List Violation
  | .create _ =>
    [.invalidIdentifier "CreateContactOptions" "name",
      .conflictingFields "CreateContactOptions" ["IfNotExists", "OrReplace"]]
  | .alter _ =>
    [.invalidIdentifier "AlterContactOptions" "name",
      .exactlyOneOf "AlterContactOptions" ["Set", "Unset", "RenameTo"],
      .invalidIdentifier "AlterContactOptions" "RenameTo",
      .atLeastOneOf "AlterContactOptions.Set" ["Email", "Comment"],
      .atLeastOneOf "AlterContactOptions.Unset" ["Comment"]]
  | .drop _ => [.invalidIdentifier "DropContactOptions" "name"]
  | .list _ => []
  | .describe _ => [.invalidIdentifier "DescribeContactOptions" "name"]

/-- No rule stands in the list of rules twice. -/
theorem nodup_rules (statement : Statement) : statement.rules.Nodup := by
  cases statement <;> simp [rules]

/-- What is broken is reported in the order of the rules, and each rule once. -/
theorem violations_sublist_rules (statement : Statement) :
    statement.violations.Sublist statement.rules := by
  cases statement with
  | create options =>
      exact (Violation.unless_sublist _ _).append (Violation.unless_sublist _ _)
  | alter options =>
      change List.Sublist _ ([_] ++ [_] ++ [_] ++ [_] ++ [_])
      refine .append (.append (.append (.append ?_ ?_) ?_) ?_) ?_
      · exact Violation.unless_sublist _ _
      · exact Violation.unless_sublist _ _
      · exact Violation.elim_sublist fun target => Violation.unless_sublist _ _
      · exact Violation.elim_sublist fun set => Violation.unless_sublist _ _
      · exact Violation.elim_sublist fun unset => Violation.unless_sublist _ _
  | drop options => exact Violation.unless_sublist _ _
  | list options => exact List.nil_sublist _
  | describe options => exact Violation.unless_sublist _ _

/-- The checks find the rules that are broken. -/
theorem mem_violations_iff {statement : Statement} {violation : Violation} :
    violation ∈ statement.violations ↔ statement.Breaks violation := by
  constructor
  · cases statement with
    | create options =>
        rw [violations, CreateContact.mem_violations_iff]
        rintro (⟨empty, rfl⟩ | ⟨⟨keeps, replaces⟩, rfl⟩)
        · exact .unnamed rfl empty
        · exact .conflicting keeps replaces
    | alter options =>
        rw [violations, AlterContact.mem_violations_iff]
        simp only [SetProperties.mem_violations_iff, UnsetProperties.mem_violations_iff]
        rintro ((((⟨empty, rfl⟩ | ⟨several, rfl⟩) | ⟨target, renames, empty, rfl⟩) |
          ⟨set, sets, ⟨email, comment⟩, rfl⟩) | ⟨unset, unsets, comment, rfl⟩)
        · exact .unnamed rfl empty
        · exact .notOneAction several
        · exact .unnamedTarget renames empty
        · exact .emptySet sets email comment
        · exact .emptyUnset unsets comment
    | drop options =>
        rw [violations, DropContact.violations, Violation.mem_unless_iff]
        rintro ⟨invalid, rfl⟩
        exact .unnamed rfl (Identifier.isValid_eq_false_iff.1 invalid)
    | list options => exact fun member => absurd member List.not_mem_nil
    | describe options =>
        rw [violations, DescribeContact.violations, Violation.mem_unless_iff]
        rintro ⟨invalid, rfl⟩
        exact .unnamed rfl (Identifier.isValid_eq_false_iff.1 invalid)
  · intro breaks
    cases breaks with
    | @unnamed statement _ _ names empty =>
        have invalid := Identifier.isValid_eq_false_iff.2 empty
        cases statement with
        | create options =>
            cases names
            exact CreateContact.mem_violations_iff.2 (.inl ⟨empty, rfl⟩)
        | alter options =>
            cases names
            exact AlterContact.mem_violations_iff.2 (.inl (.inl (.inl (.inl ⟨empty, rfl⟩))))
        | drop options =>
            cases names
            exact Violation.mem_unless_iff.2 ⟨invalid, rfl⟩
        | list options => cases names
        | describe options =>
            cases names
            exact Violation.mem_unless_iff.2 ⟨invalid, rfl⟩
    | conflicting keeps replaces =>
        exact CreateContact.mem_violations_iff.2 (.inr ⟨⟨keeps, replaces⟩, rfl⟩)
    | notOneAction several =>
        exact AlterContact.mem_violations_iff.2 (.inl (.inl (.inl (.inr ⟨several, rfl⟩))))
    | @unnamedTarget _ target renames empty =>
        exact AlterContact.mem_violations_iff.2
          (.inl (.inl (.inr ⟨target, renames, empty, rfl⟩)))
    | @emptySet _ set sets email comment =>
        have empty := SetProperties.mem_violations_iff.2 ⟨⟨email, comment⟩, rfl⟩
        exact AlterContact.mem_violations_iff.2 (.inl (.inr ⟨set, sets, empty⟩))
    | @emptyUnset _ unset unsets comment =>
        have empty := UnsetProperties.mem_violations_iff.2 ⟨comment, rfl⟩
        exact AlterContact.mem_violations_iff.2 (.inr ⟨unset, unsets, empty⟩)

end Statement

/-! ### Operations -/

/-- What the client answers to a statement. -/
def Statement.Answer : Statement → Type
  | .create _ | .alter _ | .drop _ => Unit
  | .list _ | .describe _ => List Row

/-- What an operation gives for a statement. -/
def Statement.Outcome : Statement → Type
  | .create _ | .alter _ | .drop _ => Unit
  | .list _ => List Contact
  | .describe _ => List ContactProperty

/-- The properties of rows, all of which have to decode. -/
def ContactProperty.ofRows (rows : List Row) : Except ServiceError (List ContactProperty) :=
  ((rows.mapM fun row => DescribeRow.decode (.object row)).mapError .rowMapping).map
    (·.map ContactProperty.ofRow)

/-- What an operation makes of the answer to its statement. -/
def Statement.read : (statement : Statement) → statement.Answer →
    Except ServiceError statement.Outcome
  | .create _, _ | .alter _, _ | .drop _, _ => .ok ()
  | .list _, rows => Contact.ofRows rows
  | .describe _, rows => ContactProperty.ofRows rows

/-- A client is asked for the answer to a statement, once. -/
def Client.ask (client : Client σ) : (statement : Statement) → σ → Reply statement.Answer × σ
  | .create options => client.exec (Statement.create options).sql
  | .alter options => client.exec (Statement.alter options).sql
  | .drop options => client.exec (Statement.drop options).sql
  | .list options => client.query (Statement.list options).sql
  | .describe options => client.query (Statement.describe options).sql

/-- What follows leaves the client as it is. -/
theorem Run.client_bind {first : Run (Session σ) ε α} {next : α → Run (Session σ) ε β}
    (keeps : ∀ result after, ((next result).run after).2.client = after.client)
    (before : Session σ) :
    ((first >>= next).run before).2.client = (first.run before).2.client := by
  rw [run_bind]
  cases first.run before with
  | mk outcome after =>
      cases outcome with
      | error error => rfl
      | ok result => exact keeps result after

namespace ContactsService

/-- The operation that makes a statement. -/
def perform (service : ContactsService σ) : (statement : Statement) →
    Run (Session σ) Failure statement.Outcome
  | .create request => service.create request
  | .alter request => service.alter request
  | .drop request => service.drop request
  | .list request => service.show request
  | .describe request => service.describe request.name

/-- What the client received of an operation, and what it answered. -/
def performExchanges (service : ContactsService σ) (statement : Statement) (session : Session σ) :
    List Exchange :=
  ((service.recording.perform statement).run session.recording).2.client.exchanges

/-- A broken rule ends an operation with all that is broken, and with the session as it was. -/
theorem run_perform_of_broken (service : ContactsService σ) {statement : Statement}
    (broken : statement.violations ≠ []) (session : Session σ) :
    (service.perform statement).run session =
      (.error (.failed (.validation statement.violations)), session) := by
  cases statement with
  | create request => exact run_execute_of_broken _ broken session
  | alter request => exact run_execute_of_broken _ broken session
  | drop request => exact run_execute_of_broken _ broken session
  | list request => exact absurd rfl broken
  | describe request =>
      rw [perform, describe, Run.run_bind, run_fetch_of_broken _ broken]
      rfl

section valid

variable (service : ContactsService σ) {statement : Statement}
  (valid : statement.violations = []) (session : Session σ)

include valid

/-- A statement that is sent ends as its answer says. -/
theorem outcome_execute : ((service.execute statement).run session).1 =
    service.accept (service.client.exec statement.sql session.client).1 := by
  rcases service.run_prepare_of_valid valid session with ⟨events, prepared⟩
  rw [execute, Run.run_bind, prepared]
  rfl

theorem client_execute : ((service.execute statement).run session).2.client =
    (service.client.exec statement.sql session.client).2 := by
  rcases service.run_prepare_of_valid valid session with ⟨events, prepared⟩
  rw [execute, Run.run_bind, prepared]
  rfl

theorem client_fetch (decode : Decoder α) :
    ((service.fetch statement decode).run session).2.client =
      (service.client.query statement.sql session.client).2 := by
  rcases service.run_prepare_of_valid valid session with ⟨events, prepared⟩
  rw [fetch, Run.run_bind, prepared]
  exact Run.client_bind (fun rows after => rfl) _

/-- The client is asked once, and its answer settles how the operation ends. -/
theorem outcome_perform : ((service.perform statement).run session).1 =
    service.accept (service.client.ask statement session.client).1 >>= fun answer =>
      (statement.read answer).mapError .failed := by
  have plain (reply : Reply Unit) : service.accept reply =
      service.accept reply >>= fun _ => .ok () := by
    cases service.accept reply <;> rfl
  cases statement with
  | create request => exact (outcome_execute _ valid session).trans (plain _)
  | alter request => exact (outcome_execute _ valid session).trans (plain _)
  | drop request => exact (outcome_execute _ valid session).trans (plain _)
  | list request => exact service.outcome_show request session
  | describe request =>
      exact outcome_fetch_map _ valid DescribeRow.decode ContactProperty.ofRow session

/-- An operation leads its client where the answer to its statement does. -/
theorem client_perform : ((service.perform statement).run session).2.client =
    (service.client.ask statement session.client).2 := by
  cases statement with
  | create request => exact client_execute _ valid session
  | alter request => exact client_execute _ valid session
  | drop request => exact client_execute _ valid session
  | list request =>
      exact (Run.client_bind (fun rows after => rfl) session).trans
        (client_fetch _ valid session ShowRow.decode)
  | describe request =>
      exact (Run.client_bind (fun rows after => rfl) session).trans
        (client_fetch _ valid session DescribeRow.decode)

end valid

/-- A recording client adds one exchange for a statement, with its text. -/
theorem exchanges_ask (client : Client σ) (statement : Statement) (recorded : Recorded σ) :
    (client.recording.ask statement recorded).2.exchanges =
      recorded.exchanges ++ [⟨statement.sql, (client.ask statement recorded.inner).1.withoutRows⟩] := by
  cases statement <;> rfl

/--
An operation finds each broken rule once, in the order of the rules. If there is one, the operation reports
them and changes nothing. Otherwise the client receives the statement alone, and the answer to it is all
that the result depends on.
-/
theorem perform_gated (service : ContactsService σ) (statement : Statement) (session : Session σ) :
    ∃ broken, (∀ violation, violation ∈ broken ↔ statement.Breaks violation) ∧ broken.Nodup ∧
      broken.Sublist statement.rules ∧
      ((∃ violation, statement.Breaks violation) →
        (service.perform statement).run session =
            (.error (.failed (.validation broken)), session) ∧
          service.performExchanges statement session = []) ∧
      ((∀ violation, ¬statement.Breaks violation) →
        let reply := (service.client.ask statement session.client).1
        ((service.perform statement).run session).1 =
            (if service.isOverdue reply.elapsed then .error .interrupted
            else (reply.result.mapError .client >>= statement.read).mapError .failed) ∧
          ((service.perform statement).run session).2.client =
            (service.client.ask statement session.client).2 ∧
          service.performExchanges statement session = [⟨statement.sql, reply.withoutRows⟩]) := by
  have ordered := statement.violations_sublist_rules
  refine ⟨statement.violations, fun violation => Statement.mem_violations_iff,
    ordered.nodup statement.nodup_rules, ordered, ?_, ?_⟩
  · rintro ⟨violation, breaks⟩
    have broken := List.ne_nil_of_mem (Statement.mem_violations_iff.2 breaks)
    refine ⟨service.run_perform_of_broken broken session, ?_⟩
    rw [performExchanges, run_perform_of_broken _ broken]
    rfl
  · intro keeps
    have valid : statement.violations = [] := by
      refine List.eq_nil_iff_forall_not_mem.2 fun violation member => ?_
      exact keeps violation (Statement.mem_violations_iff.1 member)
    refine ⟨?_, service.client_perform valid session, ?_⟩
    · exact (service.outcome_perform valid session).trans (service.accept_bind _ _)
    · rw [performExchanges, client_perform _ valid]
      exact exchanges_ask service.client statement session.recording.client

/-- A session whose client loses the connection at the first statement without rows. -/
def resetSession : Session Script :=
  ⟨{ execAnswers := [.error (.connection "reset")] }, []⟩

theorem perform_gated_empty_actions :
    let service : ContactsService Script := ⟨Script.client, false, none, []⟩
    let alter : AlterContact := { name := ⟨"OPS"⟩, set := some {}, unset := some {} }
    (∃ broken, (service.perform (.alter alter)).run resetSession =
        (.error (.failed (.validation broken)), resetSession) ∧
      .exactlyOneOf "AlterContactOptions" ["Set", "Unset", "RenameTo"] ∈ broken) ∧
      ((service.perform (.drop { name := ⟨"OPS"⟩ })).run resetSession).1 =
          .error (.failed (.client (.connection "reset"))) ∧
        (service.performExchanges (.drop { name := ⟨"OPS"⟩ }) resetSession).map Exchange.sql =
          ["DROP NOTIFICATION CONTACT OPS"] := by
  intro service alter
  refine ⟨?_, ?_⟩
  · have several : ¬alter.HasOneAction := by simp [alter, AlterContact.HasOneAction]
    rcases perform_gated service (.alter alter) resetSession with
      ⟨broken, found, -, -, refused, -⟩
    have breaks : Statement.Breaks (.alter alter) _ := .notOneAction several
    exact ⟨broken, (refused ⟨_, breaks⟩).1, (found _).2 breaks⟩
  · rcases perform_gated service (.drop { name := ⟨"OPS"⟩ }) resetSession with ⟨_, -, -, -, -, sent⟩
    have valid : (Statement.drop { name := ⟨"OPS"⟩ }).violations = [] := rfl
    have keeps : ∀ violation, ¬Statement.Breaks (.drop { name := ⟨"OPS"⟩ }) violation := by
      intro violation breaks
      have member := Statement.mem_violations_iff.2 breaks
      rw [valid] at member
      cases member
    rcases sent keeps with ⟨ends, -, exchanged⟩
    exact ⟨ends, by rw [exchanged]; rfl⟩

end ContactsService

end AlertContacts
