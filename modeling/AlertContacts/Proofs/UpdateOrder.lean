import AlertContacts.Proofs.Reading
import AlertContacts.Proofs.Update

/-!
# What an update sends

Which statements an update has to send depends on its two states alone: a rename where the names
differ, an assignment of what differs and is wanted, a reset of a comment that is not wanted any more,
and at the end a lookup. `updateStatements` lists them. From the rename on, the statements are about
the new name.

The statements are sent in this order until one of them does not succeed, and all of them are sent if
the alterations succeed (`update_sends_in_order`). None of them breaks a rule, so none is left out on
the way, and the platform reads the text of each as the statement that it is; an assignment without
properties or an empty reset is never on the list. A rename to the empty name is the one update that sends
nothing.
-/

namespace AlertContacts

open Json

variable {σ : Type}

theorem Identifier.name_ne_of_parse {input : String} {identifier : Identifier}
    (parsed : parse input = .ok identifier) : identifier.name ≠ "" := by
  rw [parse] at parsed
  split at parsed
  · cases parsed
  · split at parsed
    · cases parsed
    · cases parsed
    · rename_i name nonempty _
      cases parsed
      simpa using nonempty
  · rename_i bare nonempty _
    cases parsed
    simpa using nonempty

/-- No state is recorded under the empty name. -/
theorem name_ne_of_stateIdentifier {state : Value} {identifier : Identifier}
    (recordedAs : stateIdentifier state = .ok identifier) : identifier.name ≠ "" := by
  rw [stateIdentifier] at recordedAs
  split at recordedAs
  · cases recordedAs
  · exact Identifier.name_ne_of_parse (mapError_eq_ok_iff.1 recordedAs)

/-! ### Statements in order -/

/-- Statements are sent in order, up to the last of them or the first that does not succeed. -/
structure SentInOrder (limit : Option Nat) (statements : List Statement)
    (sent : List Exchange) : Prop where
  texts : sent.map Exchange.sql <+: statements.map Statement.sql
  stops : ∃ before last, sent = before ++ [last] ∧
    (∀ exchange ∈ before, exchange.Succeeded limit) ∧
      (sent.length = statements.length ∨ ¬last.Succeeded limit)

namespace Attempted

variable {limit : Option Nat} {statements : List Statement} {sent : List Exchange}

/-- If all statements succeeded, all were sent, in their order. -/
theorem of_succeeded (attempted : Attempted limit statements sent true) :
    sent.map Exchange.sql = statements.map Statement.sql ∧
      ∀ exchange ∈ sent, exchange.Succeeded limit := by
  generalize result : true = succeeded at attempted
  induction attempted with
  | all => simp
  | refused _ => cases result
  | failed _ _ _ => cases result
  | next _ text succeeds _ ih =>
      rcases ih result with ⟨texts, others⟩
      refine ⟨by simp [text, texts], ?_⟩
      intro other member
      rcases List.mem_cons.1 member with rfl | member
      · exact succeeds
      · exact others other member

/-- If some statement did not succeed, it is the last that was sent, and all before it succeeded. -/
theorem of_failed (attempted : Attempted limit statements sent false)
    (valid : ∀ statement ∈ statements, statement.violations = []) :
    sent.map Exchange.sql <+: statements.map Statement.sql ∧
      ∃ before last, sent = before ++ [last] ∧
        (∀ exchange ∈ before, exchange.Succeeded limit) ∧ ¬last.Succeeded limit := by
  generalize result : false = succeeded at attempted
  induction attempted with
  | all => cases result
  | refused broken => exact absurd (valid _ (List.mem_cons_self ..)) broken
  | failed _ text fails =>
      refine ⟨?_, [], _, rfl, by simp, fails⟩
      simp [text, List.prefix_cons_iff]
  | next _ text succeeds _ ih =>
      rcases ih (fun other member => valid other (List.mem_cons_of_mem _ member)) result with
        ⟨texts, before, last, rfl, others, fails⟩
      refine ⟨?_, _ :: before, last, rfl, ?_, fails⟩
      · rw [List.map_cons, List.map_cons, text]
        exact List.cons_prefix_cons.2 ⟨rfl, texts⟩
      · intro other member
        rcases List.mem_cons.1 member with rfl | member
        · exact succeeds
        · exact others other member

end Attempted

/-- Statements are run until one does not succeed, and behind them a last one whatever its answer. -/
def SentThrough (limit : Option Nat) (statements : List Statement) (last : Statement)
    (sent : List Exchange) : Prop :=
  Attempted limit statements sent false ∨
    ∃ before exchange, sent = before ++ [exchange] ∧ exchange.sql = last.sql ∧
      Attempted limit statements before true

namespace SentThrough

variable {limit : Option Nat} {first others : List Statement} {last : Statement}
  {before sent : List Exchange}

theorem prepend (attempted : Attempted limit first before true)
    (through : SentThrough limit others last sent) :
    SentThrough limit (first ++ others) last (before ++ sent) := by
  rcases through with fails | ⟨succeeded, exchange, rfl, text, succeeds⟩
  · exact .inl (attempted.append fails)
  · refine .inr ⟨before ++ succeeded, exchange, ?_, text, attempted.append succeeds⟩
    rw [List.append_assoc]

/-- Statements that are run with one behind them are sent in order. -/
theorem sentInOrder (through : SentThrough limit first last sent)
    (valid : ∀ statement ∈ first, statement.violations = []) :
    SentInOrder limit (first ++ [last]) sent := by
  rcases through with fails | ⟨succeeded, exchange, rfl, text, succeeds⟩
  · rcases fails.of_failed valid with ⟨texts, before, failed, parts, others, fails⟩
    refine ⟨?_, before, failed, parts, others, .inr fails⟩
    rw [List.map_append]
    exact texts.trans (List.prefix_append _ _)
  · rcases succeeds.of_succeeded with ⟨texts, others⟩
    have all : (succeeded ++ [exchange]).map Exchange.sql =
        (first ++ [last]).map Statement.sql := by
      simp [texts, text]
    have length := congrArg List.length all
    simp only [List.length_map] at length
    refine ⟨?_, succeeded, exchange, rfl, others, .inl length⟩
    simp only [all, List.prefix_refl]

/-- What is sent is the text of one of the statements, which breaks no rule. -/
theorem exists_statement (through : SentThrough limit first last sent)
    (valid : last.violations = []) {exchange : Exchange} (member : exchange ∈ sent) :
    ∃ statement ∈ first ++ [last], statement.violations = [] ∧ exchange.sql = statement.sql := by
  rcases through with fails | ⟨before, looked, rfl, text, succeeds⟩
  · rcases fails.exists_statement member with ⟨statement, mentioned, facts⟩
    exact ⟨statement, List.mem_append_left _ mentioned, facts⟩
  · rcases List.mem_append.1 member with member | member
    · rcases succeeds.exists_statement member with ⟨statement, mentioned, facts⟩
      exact ⟨statement, List.mem_append_left _ mentioned, facts⟩
    · rw [List.mem_singleton.1 member]
      exact ⟨last, List.mem_append_right _ (List.mem_singleton_self _), valid, text⟩

/-- All statements are sent if none of those before the last one fails. -/
theorem attempted_of_succeeded (through : SentThrough limit first last sent)
    (valid : ∀ statement ∈ first, statement.violations = [])
    (succeed : ∀ exchange ∈ sent, (∃ statement ∈ first, exchange.sql = statement.sql) →
      exchange.Succeeded limit) :
    ∃ before exchange, sent = before ++ [exchange] ∧ exchange.sql = last.sql ∧
      Attempted limit first before true := by
  rcases through with fails | succeeds
  · -- The exchange that failed was about one of the first statements.
    rcases fails.of_failed valid with ⟨-, before, failed, rfl, -, notSucceeded⟩
    have member : failed ∈ before ++ [failed] := by simp
    rcases fails.exists_statement member with ⟨statement, mentioned, -, text⟩
    exact absurd (succeed failed member ⟨statement, mentioned, text⟩) notSucceeded
  · exact succeeds

/-- If nothing but the last statement fails, the texts are those of all statements. -/
theorem texts_of_succeeded (through : SentThrough limit first last sent)
    (valid : ∀ statement ∈ first, statement.violations = [])
    (others : ∀ statement ∈ first, statement.sql ≠ last.sql)
    (succeed : ∀ exchange ∈ sent, exchange.sql ≠ last.sql → exchange.Succeeded limit) :
    sent.map Exchange.sql = (first ++ [last]).map Statement.sql := by
  have attempted := through.attempted_of_succeeded valid ?_
  · rcases attempted with ⟨before, exchange, rfl, text, succeeds⟩
    simp [succeeds.of_succeeded.1, text]
  · rintro exchange member ⟨statement, mentioned, text⟩
    apply succeed exchange member
    rw [text]
    exact others statement mentioned

end SentThrough

namespace Statement

variable {identifier target : Identifier} {set : SetProperties} {unset : UnsetProperties}
  {statement : Statement}

theorem rename_valid (named : identifier.name ≠ "") (targetNamed : target.name ≠ "") :
    (rename identifier target).violations = [] := by
  simp [rename, violations, AlterContact.violations, Identifier.isValid, named, targetNamed,
    exactlyOne]

theorem assign_valid (named : identifier.name ≠ "") (nonempty : set ≠ {}) :
    (assign identifier set).violations = [] := by
  have some : anySet [set.email.isSome, set.comment.isSome] = true := by
    rcases set with ⟨_ | email, _ | comment⟩
    · exact absurd rfl nonempty
    · rfl
    · rfl
    · rfl
  simp [assign, violations, AlterContact.violations, Identifier.isValid, named, exactlyOne,
    SetProperties.violations, some]

theorem reset_valid (named : identifier.name ≠ "") (nonempty : unset ≠ {}) :
    (reset identifier unset).violations = [] := by
  have some : anySet [unset.comment] = true := by
    rcases unset with ⟨_ | _⟩
    · exact absurd rfl nonempty
    · rfl
  simp [reset, violations, AlterContact.violations, Identifier.isValid, named, exactlyOne,
    UnsetProperties.violations, some]

/-- No property statement of a contact with a name breaks a rule: empty ones are left out. -/
theorem forProperties_valid (named : identifier.name ≠ "")
    (member : statement ∈ forProperties identifier set unset) : statement.violations = [] := by
  rcases List.mem_append.1 member with assigns | resets
  · split at assigns
    · rename_i nonempty
      rw [List.mem_singleton.1 assigns]
      exact assign_valid named nonempty
    · cases assigns
  · split at resets
    · rename_i nonempty
      rw [List.mem_singleton.1 resets]
      exact reset_valid named nonempty
    · cases resets

end Statement

namespace ContactProvider

/-! ### The statements of two states -/

section statements

variable (recorded : Identifier) (current desired : ContactAttributes)

/-- The alterations that lead from one state to the other, in the order they are made. -/
def alterations : List Statement :=
  let target := settledIdentifier recorded current desired
  (if current.name ≠ desired.name then [.rename recorded ⟨desired.name⟩] else []) ++
  (if current.email ≠ desired.email ∨ current.comment ≠ desired.comment ∧ desired.comment ≠ none then
    [.assign target
      { email := if current.email = desired.email then none else some desired.email
        comment := if current.comment = desired.comment then none else desired.comment }]
  else []) ++
  (if current.comment ≠ desired.comment ∧ desired.comment = none then
    [.reset target { comment := true }]
  else [])

/-- The statements of an update: the alterations, and a lookup of the contact under its last name. -/
def updateStatements : List Statement :=
  alterations recorded current desired ++
    [ContactsService.lookup (settledIdentifier recorded current desired)]

end statements

section statements

variable {recorded target : Identifier} {current desired : ContactAttributes}

/-- There is something to set if the address differs, or a comment that is wanted. -/
theorem propertiesToSet_ne_iff : propertiesToSet current desired ≠ {} ↔
    current.email ≠ desired.email ∨ current.comment ≠ desired.comment ∧ desired.comment ≠ none := by
  rw [propertiesToSet, ne_eq, SetProperties.mk.injEq]
  by_cases email : current.email = desired.email <;>
    by_cases comment : current.comment = desired.comment <;> simp [email, comment]

/-- There is something to unset if there is a comment and none is wanted. -/
theorem propertiesToUnset_ne_iff : propertiesToUnset current desired ≠ {} ↔
    current.comment ≠ desired.comment ∧ desired.comment = none := by
  simp [propertiesToUnset]

theorem propertiesToUnset_of_ne (resets : propertiesToUnset current desired ≠ {}) :
    propertiesToUnset current desired = { comment := true } := by
  cases unset : (propertiesToUnset current desired).comment with
  | true => rw [← unset]
  | false => exact absurd (congrArg UnsetProperties.mk unset) resets

theorem alterations_eq : alterations recorded current desired =
    renames recorded current desired ++
      settles (settledIdentifier recorded current desired) current desired := by
  rw [alterations, renames, settles, Statement.forProperties, List.append_assoc]
  congr 1
  · rw [ite_not]
    rfl
  congr 1
  · exact if_congr propertiesToSet_ne_iff.symm rfl rfl
  · by_cases resets : propertiesToUnset current desired ≠ {}
    · rw [if_pos resets, if_pos (propertiesToUnset_ne_iff.1 resets),
        propertiesToUnset_of_ne resets]
    · rw [if_neg resets, if_neg (mt propertiesToUnset_ne_iff.2 resets)]

/-- The name of a contact is not empty in the end, unless it is renamed to the empty name. -/
theorem settledIdentifier_named (named : recorded.name ≠ "")
    (renamable : ¬(current.name ≠ desired.name ∧ desired.name = "")) :
    (settledIdentifier recorded current desired).name ≠ "" := by
  rw [settledIdentifier]
  split
  · exact named
  · rename_i different
    intro empty
    exact renamable ⟨different, empty⟩

/-- No alteration of an update breaks a rule, unless it renames to the empty name. -/
theorem alterations_valid (named : recorded.name ≠ "")
    (renamable : ¬(current.name ≠ desired.name ∧ desired.name = "")) :
    ∀ statement ∈ alterations recorded current desired, statement.violations = [] := by
  intro statement member
  rw [alterations_eq] at member
  rcases List.mem_append.1 member with renamed | settled
  · rw [renames] at renamed
    split at renamed
    · cases renamed
    · rename_i different
      rw [List.mem_singleton.1 renamed]
      apply Statement.rename_valid named
      intro empty
      exact renamable ⟨different, empty⟩
  · exact Statement.forProperties_valid (settledIdentifier_named named renamable) settled

/-- No statement of an update breaks a rule, unless it renames to the empty name. -/
theorem updateStatements_valid (named : recorded.name ≠ "")
    (renamable : ¬(current.name ≠ desired.name ∧ desired.name = "")) :
    ∀ statement ∈ updateStatements recorded current desired, statement.violations = [] := by
  intro statement member
  rcases List.mem_append.1 member with alters | looks
  · exact alterations_valid named renamable statement alters
  · rw [List.mem_singleton.1 looks]
    rfl

/-- No alteration is a lookup, so what comes last can be told from the rest. -/
theorem alterations_ne_lookup (valid : ∀ statement ∈ alterations recorded current desired,
    statement.violations = []) :
    ∀ statement ∈ alterations recorded current desired,
      statement.sql ≠ (ContactsService.lookup target).sql := by
  intro statement member
  have broken := valid statement member
  rw [alterations_eq] at member
  rcases List.mem_append.1 member with renamed | settled
  · rw [renames] at renamed
    split at renamed
    · cases renamed
    · rw [List.mem_singleton.1 renamed] at broken ⊢
      exact (Statement.lookup_sql_ne_alter_sql broken).symm
  · rcases Statement.mem_forProperties settled with rfl | rfl
    · exact (Statement.lookup_sql_ne_alter_sql broken).symm
    · exact (Statement.lookup_sql_ne_alter_sql broken).symm

end statements

/-! ### What is sent -/

section sent

variable {limit : Option Nat} {prior : Value} {recorded identifier : Identifier}
  {current desired : ContactAttributes} {renamed : Bool} {outcome : Except ProviderError Value}
  {sent : List Exchange}

/-- Settling runs the property statements, and reads back if they succeed. -/
theorem sentThrough_of_settleEnds
    (ends : SettleEnds limit prior current desired renamed identifier outcome sent) :
    SentThrough limit (settles identifier current desired) (ContactsService.lookup identifier)
      sent := by
  cases ends with
  | unsettled attempted _ => exact .inl attempted
  | readBack attempted text _ => exact .inr ⟨_, _, rfl, text, attempted⟩

/-- A change runs the alterations of its states, and reads back under the last name. -/
theorem sends_carryOut_through (provider : ContactProvider σ) (contacts : ContactsService σ)
    (prior : Value) (recorded : Identifier) (current desired : ContactAttributes) :
    (provider.recording.carryOut contacts.recording prior recorded current desired).Sends
      fun _ sent => SentThrough contacts.limit (alterations recorded current desired)
        (ContactsService.lookup (settledIdentifier recorded current desired)) sent := by
  rw [carryOut, alterations_eq]
  by_cases same : current.name = desired.name
  · rw [if_pos same, renames, if_pos same, settledIdentifier, if_pos same]
    refine (provider.sends_settle contacts prior current desired false recorded).weaken ?_
    intro outcome sent ends
    exact sentThrough_of_settleEnds ends
  · rw [if_neg same, renames_of_ne same, settledIdentifier_of_ne same]
    refine (provider.sends_rename contacts recorded desired.identifier).bind ?_ ?_
    · rintro error sent ⟨attempted, -, -⟩
      exact .inl (attempted.stopped _)
    · rintro identifier before ⟨attempted, -, target⟩
      rw [target identifier rfl]
      refine (provider.sends_settle contacts prior current desired true _).weaken ?_
      intro outcome sent ends
      exact (sentThrough_of_settleEnds ends).prepend attempted

end sent

section update

variable {prior planned : Value} {recorded : Identifier} {current desired : ContactAttributes}

theorem run_rename_of_broken (provider : ContactProvider σ) (contacts : ContactsService σ)
    {target : Identifier} (broken : (Statement.rename recorded target).violations ≠ [])
    (session : Session σ) : (provider.rename contacts recorded target).run session =
      (.error (.validation (Violation.messages (Statement.rename recorded target).violations)),
        session) := by
  have refused := (contacts.on "contacts.alter" recorded).run_execute_of_broken broken session
  have stops : (contacts.alter { name := recorded, renameTo := some target }).run session =
      (.error (.failed (.validation (Statement.rename recorded target).violations)), session) :=
    refused
  rw [rename, Run.run_bind, bounded, Run.run_recover, stops]
  rfl

/-- An update whose states can be read carries out the change. -/
theorem update_eq_carryOut (provider : ContactProvider σ)
    (recordedAs : stateIdentifier prior = .ok recorded)
    (currently : ContactAttributes.ofState prior = .ok current)
    (desires : ContactAttributes.ofState planned = .ok desired) :
    provider.update contactResourceType prior planned =
      provider.carryOut (provider.contacts (span "update" contactResourceType)) prior recorded
        current desired := by
  rw [update_eq, recordedAs, currently, desires]
  rfl

/-- An update runs the alterations of its states, and reads back under the last name. -/
theorem sentThrough_update (provider : ContactProvider σ) (session : Session σ)
    (recordedAs : stateIdentifier prior = .ok recorded)
    (currently : ContactAttributes.ofState prior = .ok current)
    (desires : ContactAttributes.ofState planned = .ok desired) :
    SentThrough provider.config.limit? (alterations recorded current desired)
      (ContactsService.lookup (settledIdentifier recorded current desired))
      (provider.updateExchanges contactResourceType prior planned session) := by
  have sends := provider.sends_carryOut_through
    (provider.contacts (span "update" contactResourceType)) prior recorded current desired
  rcases sends session.recording with ⟨sent, added, through⟩
  have exchanges : provider.updateExchanges contactResourceType prior planned session = sent := by
    rw [updateExchanges, update_eq_carryOut _ recordedAs currently desires]
    exact added
  rw [exchanges]
  exact through

/-- A rename to the empty name is refused before anything is sent. -/
theorem run_update_of_empty_rename (provider : ContactProvider σ) (session : Session σ)
    (recordedAs : stateIdentifier prior = .ok recorded)
    (currently : ContactAttributes.ofState prior = .ok current)
    (desires : ContactAttributes.ofState planned = .ok desired)
    (different : current.name ≠ desired.name) (empty : desired.name = "") :
    (provider.update contactResourceType prior planned).run session =
      (.error (.validation "invalid object identifier for AlterContactOptions.RenameTo"),
        session) := by
  have violations : (Statement.rename recorded desired.identifier).violations =
      [.invalidIdentifier "AlterContactOptions" "RenameTo"] := by
    have named := name_ne_of_stateIdentifier recordedAs
    simp [Statement.rename, Statement.violations, AlterContact.violations, Identifier.isValid,
      named, exactlyOne, ContactAttributes.identifier, empty, Violation.unless]
  have broken : (Statement.rename recorded desired.identifier).violations ≠ [] := by
    simp [violations]
  have refused := provider.run_rename_of_broken
    (provider.contacts (span "update" contactResourceType)) broken session
  rw [violations] at refused
  rw [update_eq_carryOut _ recordedAs currently desires, carryOut, if_neg different, Run.run_bind,
    refused]
  rfl

end update

/--
An update sends the statements that its states ask for, in their order, up to the first one that does
not succeed; it sends all of them if every alteration succeeds. None of them breaks a rule, and each is read
back from its text. Only a rename to the empty name is refused, with nothing sent.
-/
theorem update_sends_in_order (provider : ContactProvider σ) (session : Session σ)
    {prior planned : Value} {recorded : Identifier} {current desired : ContactAttributes}
    (recordedAs : stateIdentifier prior = .ok recorded)
    (currently : ContactAttributes.ofState prior = .ok current)
    (desires : ContactAttributes.ofState planned = .ok desired) :
    let statements := updateStatements recorded current desired
    let lookup := ContactsService.lookup (settledIdentifier recorded current desired)
    let sent := provider.updateExchanges contactResourceType prior planned session
    if current.name ≠ desired.name ∧ desired.name = "" then
      sent = [] ∧ ((provider.update contactResourceType prior planned).run session).1 =
        .error (.validation "invalid object identifier for AlterContactOptions.RenameTo")
    else
      (∀ statement ∈ statements,
          statement.violations = [] ∧ Statement.ofSql? statement.sql = some statement) ∧
        SentInOrder provider.config.limit? statements sent ∧
          ((∀ exchange ∈ sent, exchange.sql ≠ lookup.sql →
              exchange.Succeeded provider.config.limit?) →
            sent.map Exchange.sql = statements.map Statement.sql) := by
  intro statements lookup sent
  split
  · rename_i refused
    rcases refused with ⟨different, empty⟩
    refine ⟨?_, ?_⟩
    · have unchanged := provider.recording.run_update_of_empty_rename session.recording recordedAs
        currently desires different empty
      simp only [sent, updateExchanges, unchanged]
      rfl
    · rw [provider.run_update_of_empty_rename session recordedAs currently desires different empty]
  · rename_i renamable
    have named := name_ne_of_stateIdentifier recordedAs
    have valid := alterations_valid named renamable
    have through := provider.sentThrough_update session recordedAs currently desires
    refine ⟨?_, through.sentInOrder valid, ?_⟩
    · intro statement member
      have keeps := updateStatements_valid named renamable statement member
      exact ⟨keeps, Statement.ofSql?_sql keeps⟩
    intro succeed
    exact through.texts_of_succeeded valid (alterations_ne_lookup valid) succeed

/-- The statements that lead from the state of `OPS` to that of `ONCALL`. -/
def oncallStatements : List Statement :=
  [.rename ⟨"OPS"⟩ ⟨"ONCALL"⟩, .assign ⟨"ONCALL"⟩ { email := some "oncall@example.com" },
    .reset ⟨"ONCALL"⟩ { comment := true }, ContactsService.lookup ⟨"ONCALL"⟩]

theorem update_sends_in_order_refused_reset :
    stateIdentifier opsState = .ok ⟨"OPS"⟩ ∧
      ContactAttributes.ofState opsState = .ok ⟨"OPS", "ops@example.com", some "on duty"⟩ ∧
      ContactAttributes.ofState oncallState = .ok ⟨"ONCALL", "oncall@example.com", none⟩ ∧
      (∀ statement ∈ oncallStatements,
        statement.violations = [] ∧ Statement.ofSql? statement.sql = some statement) ∧
      SentInOrder scripted.config.limit? oncallStatements
        (oncallExchanges [.ok (), .ok (), .error (.execution none "denied")]) ∧
      (oncallExchanges [.ok (), .ok (), .error (.execution none "denied")]).map Exchange.sql =
        ["ALTER NOTIFICATION CONTACT OPS RENAME TO ONCALL",
          "ALTER NOTIFICATION CONTACT ONCALL SET EMAIL = 'oncall@example.com'",
          "ALTER NOTIFICATION CONTACT ONCALL UNSET COMMENT"] := by
  have recordedAs : stateIdentifier opsState = .ok ⟨"OPS"⟩ := rfl
  have currently : ContactAttributes.ofState opsState =
      .ok ⟨"OPS", "ops@example.com", some "on duty"⟩ := rfl
  have desires : ContactAttributes.ofState oncallState =
      .ok ⟨"ONCALL", "oncall@example.com", none⟩ := rfl
  rcases update_sends_in_order scripted
    (answering [.ok (), .ok (), .error (.execution none "denied")]) recordedAs currently desires with
    ⟨readBack, inOrder, -⟩
  exact ⟨recordedAs, currently, desires, readBack, inOrder, rfl⟩

end ContactProvider

end AlertContacts
