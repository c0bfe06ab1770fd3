import AlertContacts.Client.Script
import AlertContacts.Proofs.ContactState
import AlertContacts.Proofs.Provider

/-!
# Updates that stop half way

An update renames, applies properties and reads back. `UpdateEnds` tells how it can end and what was
sent until then; every other fact about an update that fails follows from it.

Once the contact is renamed, the error should carry a state under the new name that reflects the
steps that succeeded. The identity is carried exactly when the update did not get as far as reading
back (`carries_new_identity_iff_not_read_back`). The attributes are those of the prior state, so they
are right exactly when no assignment was executed and the name stays what it is when it is read again
(`carried_state_reflects_steps_iff`).
-/

namespace AlertContacts

open Json

variable {σ : Type}

namespace ContactProvider

/-! ### The whole update -/

/-- Applies the properties; behind a rename, a failure carries the state under the new identifier. -/
def applyGuarded (provider : ContactProvider σ) (contacts : ContactsService σ) (prior : Value)
    (current desired : ContactAttributes) (renamed : Bool) (identifier : Identifier) :
    Run (Session σ) ProviderError Unit :=
  (provider.applyProperties contacts identifier (propertiesToSet current desired)
      (propertiesToUnset current desired)).recover fun error =>
    if renamed then do
      contacts.log .error "Update failed after rename"
        [("contact", .string identifier.sql), ("error", .string error.text)]
      .fail (.partialUpdate (renamedState prior identifier) error)
    else .fail error

def settle (provider : ContactProvider σ) (contacts : ContactsService σ) (prior : Value)
    (current desired : ContactAttributes) (renamed : Bool) (identifier : Identifier) :
    Run (Session σ) ProviderError Value := do
  provider.applyGuarded contacts prior current desired renamed identifier
  contacts.log .info "Notification contact updated" [("contact", .string identifier.sql)]
  provider.readBack contacts identifier

/-- What an update does once its states are decoded. -/
def carryOut (provider : ContactProvider σ) (contacts : ContactsService σ) (prior : Value)
    (recorded : Identifier) (current desired : ContactAttributes) :
    Run (Session σ) ProviderError Value :=
  if current.name = desired.name then
    provider.settle contacts prior current desired false recorded
  else
    provider.rename contacts recorded desired.identifier >>= fun identifier =>
      provider.settle contacts prior current desired true identifier

/-- An update checks its type, reads its states, and then carries out the change. -/
theorem update_eq (provider : ContactProvider σ) (resourceType : String) (prior planned : Value) :
    provider.update resourceType prior planned = (do
      checkResourceType resourceType
      let recorded ← stateIdentifier prior
      let current ← ContactAttributes.ofState prior
      let desired ← ContactAttributes.ofState planned
      provider.carryOut (provider.contacts (span "update" resourceType)) prior recorded current
        desired) := by
  unfold update carryOut
  congr
  funext _
  congr
  funext recorded
  congr
  funext current
  congr
  funext desired
  by_cases same : current.name = desired.name
  · have renamed : decide (current.name ≠ desired.name) = false := by simp [same]
    simp only [renamed, if_pos same]
    rfl
  · have renamed : decide (current.name ≠ desired.name) = true := by simp [same]
    simp only [renamed, if_neg same]
    rfl

theorem mirrors_settle (provider : ContactProvider σ) (contacts : ContactsService σ) (prior : Value)
    (current desired : ContactAttributes) (renamed : Bool) (identifier : Identifier) :
    (provider.recording.settle contacts.recording prior current desired renamed identifier).Mirrors
      (provider.settle contacts prior current desired renamed identifier) := by
  have applies : (provider.recording.applyGuarded contacts.recording prior current desired renamed
      identifier).Mirrors
        (provider.applyGuarded contacts prior current desired renamed identifier) := by
    refine (provider.mirrors_applyProperties contacts identifier _ _).recover ?_
    intro error
    cases renamed with
    | false => exact .ofExcept (.error error)
    | true =>
        refine (Run.Mirrors.log _).bind ?_
        intro _
        exact .ofExcept (.error _)
  refine applies.bind ?_
  intro _
  refine (Run.Mirrors.log _).bind ?_
  intro _
  exact provider.mirrors_readBack contacts identifier

theorem mirrors_carryOut (provider : ContactProvider σ) (contacts : ContactsService σ)
    (prior : Value) (recorded : Identifier) (current desired : ContactAttributes) :
    (provider.recording.carryOut contacts.recording prior recorded current desired).Mirrors
      (provider.carryOut contacts prior recorded current desired) := by
  rw [carryOut, carryOut]
  split
  · exact provider.mirrors_settle contacts prior current desired false recorded
  · refine (provider.mirrors_rename contacts recorded desired.identifier).bind ?_
    intro identifier
    exact provider.mirrors_settle contacts prior current desired true identifier

/-- An update ends the same over a recording client. -/
theorem mirrors_update (provider : ContactProvider σ) (resourceType : String)
    (prior planned : Value) :
    (provider.recording.update resourceType prior planned).Mirrors
      (provider.update resourceType prior planned) := by
  rw [update_eq, update_eq]
  refine (Run.Mirrors.ofExcept _).bind ?_
  intro _
  refine (Run.Mirrors.ofExcept _).bind ?_
  intro recorded
  refine (Run.Mirrors.ofExcept _).bind ?_
  intro current
  refine (Run.Mirrors.ofExcept _).bind ?_
  intro desired
  exact provider.mirrors_carryOut (provider.contacts (span "update" resourceType)) prior recorded
    current desired

/-! ### How an update ends -/

/-- The identifier that a contact has when its properties are applied. -/
def settledIdentifier (recorded : Identifier) (current desired : ContactAttributes) : Identifier :=
  if current.name = desired.name then recorded else desired.identifier

def renames (recorded : Identifier) (current desired : ContactAttributes) : List Statement :=
  if current.name = desired.name then [] else [.rename recorded desired.identifier]

def settles (identifier : Identifier) (current desired : ContactAttributes) : List Statement :=
  Statement.forProperties identifier (propertiesToSet current desired)
    (propertiesToUnset current desired)

/-- How the properties of a contact are settled, and what is sent for it. -/
inductive SettleEnds (limit : Option Nat) (prior : Value) (current desired : ContactAttributes)
    (renamed : Bool) (identifier : Identifier) :
    Except ProviderError Value → List Exchange → Prop where
  | unsettled {error : ProviderError} {sent : List Exchange}
      (attempted : Attempted limit (settles identifier current desired) sent false)
      (plain : error.partialState? = none) :
      SettleEnds limit prior current desired renamed identifier
        (.error (if renamed then .partialUpdate (renamedState prior identifier) error else error))
        sent
  | readBack {outcome : Except ProviderError Value} {sent : List Exchange} {exchange : Exchange}
      (attempted : Attempted limit (settles identifier current desired) sent true)
      (text : exchange.sql = (ContactsService.lookup identifier).sql)
      (plain : FailsPlainly outcome) :
      SettleEnds limit prior current desired renamed identifier outcome (sent ++ [exchange])

theorem sends_settle (provider : ContactProvider σ) (contacts : ContactsService σ) (prior : Value)
    (current desired : ContactAttributes) (renamed : Bool) (identifier : Identifier) :
    (provider.recording.settle contacts.recording prior current desired renamed identifier).Sends
      (SettleEnds contacts.limit prior current desired renamed identifier) := by
  have applies : (provider.recording.applyGuarded contacts.recording prior current desired renamed
      identifier).Sends fun outcome sent =>
        (outcome = .ok () → Attempted contacts.limit (settles identifier current desired) sent true) ∧
          ∀ error, outcome = .error error → SettleEnds contacts.limit prior current desired renamed
            identifier (.error error) sent := by
    refine (provider.sends_applyProperties contacts identifier _ _).recover ?_ ?_
    · rintro _ sent ⟨attempted, -⟩
      exact ⟨fun _ => attempted, by rintro error ⟨⟩⟩
    · rintro error before ⟨attempted, plain⟩
      have ends : SettleEnds contacts.limit prior current desired renamed identifier _ before :=
        .unsettled attempted (plain error rfl)
      cases renamed with
      | false =>
          refine .ofExcept ⟨by rintro ⟨⟩, ?_⟩
          rw [List.append_nil]
          rintro _ ⟨rfl⟩
          exact ends
      | true =>
          refine .log_bind (.ofExcept ⟨by rintro ⟨⟩, ?_⟩)
          rw [List.append_nil]
          rintro _ ⟨rfl⟩
          exact ends
  refine applies.bind ?_ ?_
  · rintro error sent ⟨-, ends⟩
    exact ends error rfl
  · rintro _ before ⟨attempted, -⟩
    refine .log_bind ((provider.sends_readBack contacts identifier).weaken ?_)
    rintro outcome sent ⟨⟨exchange, rfl, text⟩, plain⟩
    exact .readBack (attempted rfl) text plain

/-- How an update with decoded states ends, and what is sent for it. -/
inductive UpdateEnds (limit : Option Nat) (prior : Value) (recorded : Identifier)
    (current desired : ContactAttributes) : Except ProviderError Value → List Exchange → Prop where
  | rejected {error : ProviderError} (plain : error.partialState? = none) :
      UpdateEnds limit prior recorded current desired (.error error) []
  | unrenamed {error : ProviderError} {sent : List Exchange}
      (attempted : Attempted limit (renames recorded current desired) sent false)
      (plain : error.partialState? = none) :
      UpdateEnds limit prior recorded current desired (.error error) sent
  | renamed {outcome : Except ProviderError Value} {before sent : List Exchange}
      (attempted : Attempted limit (renames recorded current desired) before true)
      (settled : SettleEnds limit prior current desired (current.name ≠ desired.name)
        (settledIdentifier recorded current desired) outcome sent) :
      UpdateEnds limit prior recorded current desired outcome (before ++ sent)

/-- Carrying out a change ends in one of the ways, with what is sent for it. -/
theorem sends_carryOut (provider : ContactProvider σ) (contacts : ContactsService σ)
    (prior : Value) (recorded : Identifier) (current desired : ContactAttributes) :
    (provider.recording.carryOut contacts.recording prior recorded current desired).Sends
      (UpdateEnds contacts.limit prior recorded current desired) := by
  rw [carryOut]
  by_cases same : current.name = desired.name
  · rw [if_pos same]
    refine (provider.sends_settle contacts prior current desired false recorded).weaken ?_
    intro outcome sent ends
    have attempted : Attempted contacts.limit (renames recorded current desired) [] true := by
      rw [renames, if_pos same]
      exact .all
    rw [← List.nil_append sent]
    refine .renamed attempted ?_
    rw [settledIdentifier, if_pos same]
    simpa [same] using ends
  · rw [if_neg same]
    have statements : renames recorded current desired = [.rename recorded desired.identifier] := by
      rw [renames, if_neg same]
    refine (provider.sends_rename contacts recorded desired.identifier).bind ?_ ?_
    · rintro error sent ⟨attempted, plain, -⟩
      exact .unrenamed (statements ▸ attempted) (plain error rfl)
    · rintro identifier before ⟨attempted, -, target⟩
      rw [target identifier rfl]
      refine (provider.sends_settle contacts prior current desired true _).weaken ?_
      intro outcome sent ends
      refine .renamed (statements ▸ attempted) ?_
      rw [settledIdentifier, if_neg same]
      simpa [same] using ends

theorem sends_update (provider : ContactProvider σ) (resourceType : String) {prior planned : Value}
    {recorded : Identifier} {current desired : ContactAttributes}
    (recordedAs : stateIdentifier prior = .ok recorded)
    (currently : ContactAttributes.ofState prior = .ok current)
    (desires : ContactAttributes.ofState planned = .ok desired) :
    (provider.recording.update resourceType prior planned).Sends
      (UpdateEnds provider.config.limit? prior recorded current desired) := by
  rw [update_eq, recordedAs, currently, desires]
  refine .ofExcept_bind ?_ ?_
  · intro error unknown
    rw [checkResourceType] at unknown
    split at unknown
    · cases unknown
    · cases unknown
      exact .rejected rfl
  · intro _ _
    refine .ofExcept_bind (by rintro error ⟨⟩) ?_
    rintro _ ⟨rfl⟩
    refine .ofExcept_bind (by rintro error ⟨⟩) ?_
    rintro _ ⟨rfl⟩
    refine .ofExcept_bind (by rintro error ⟨⟩) ?_
    rintro _ ⟨rfl⟩
    exact provider.sends_carryOut (provider.contacts (span "update" resourceType)) prior recorded
      current desired

def updateExchanges (provider : ContactProvider σ) (resourceType : String) (prior planned : Value)
    (session : Session σ) : List Exchange :=
  ((provider.recording.update resourceType prior planned).run session.recording).2.client.exchanges

/-- An update whose states can be read ends in one of the ways, with what is sent for it. -/
theorem update_ends (provider : ContactProvider σ) (resourceType : String) {prior planned : Value}
    {recorded : Identifier} {current desired : ContactAttributes}
    (recordedAs : stateIdentifier prior = .ok recorded)
    (currently : ContactAttributes.ofState prior = .ok current)
    (desires : ContactAttributes.ofState planned = .ok desired) (session : Session σ) :
    UpdateEnds provider.config.limit? prior recorded current desired
      ((provider.update resourceType prior planned).run session).1
      (provider.updateExchanges resourceType prior planned session) := by
  rcases provider.sends_update resourceType recordedAs currently desires session.recording with
    ⟨sent, added, ends⟩
  have mirrored := provider.mirrors_update resourceType prior planned session.recording
  have same : session.recording.forget = session := rfl
  rw [same] at mirrored
  have exchanges : provider.updateExchanges resourceType prior planned session = sent := by
    rw [updateExchanges, added]
    rfl
  rw [mirrored, exchanges]
  exact ends

/-! ### Updates that rename -/

section afterRename

variable {limit : Option Nat} {prior : Value} {recorded identifier target : Identifier}
  {current desired : ContactAttributes} {outcome : Except ProviderError Value}
  {exchanges sent : List Exchange} {succeeded : Bool}

theorem renames_of_ne (different : current.name ≠ desired.name) :
    renames recorded current desired = [.rename recorded desired.identifier] := by
  rw [renames, if_neg different]

theorem settledIdentifier_of_ne (different : current.name ≠ desired.name) :
    settledIdentifier recorded current desired = desired.identifier := by
  rw [settledIdentifier, if_neg different]

/-- Where the rename did not succeed, nothing was executed. -/
theorem not_executed_of_unrenamed
    (attempted : Attempted limit (renames recorded current desired) sent false)
    (statement : Statement) : ¬Executed limit sent statement := by
  intro executed
  rcases attempted.split_of_executed executed with ⟨before, other, after, parts, -, -, followed⟩
  have short := congrArg List.length parts
  have later := List.length_pos_iff.2 (followed rfl)
  rw [renames, List.length_append, List.length_cons] at short
  split at short
  · simp only [List.length_nil] at short
    omega
  · simp only [List.length_singleton] at short
    omega

/-- No property statement is a lookup. -/
theorem ne_lookup_of_settles
    (attempted : Attempted limit (settles identifier current desired) sent succeeded)
    {exchange : Exchange} (member : exchange ∈ sent) :
    exchange.sql ≠ (ContactsService.lookup target).sql := by
  rcases attempted.exists_statement member with ⟨statement, mentioned, valid, text⟩
  rw [text]
  rcases Statement.mem_forProperties mentioned with rfl | rfl
  · exact (Statement.lookup_sql_ne_alter_sql valid).symm
  · exact (Statement.lookup_sql_ne_alter_sql valid).symm

/-- No property statement is a rename. -/
theorem ne_rename_of_settles
    (attempted : Attempted limit (settles identifier current desired) sent succeeded)
    (valid : (Statement.rename recorded target).violations = []) {exchange : Exchange}
    (member : exchange ∈ sent) : exchange.sql ≠ (Statement.rename recorded target).sql := by
  rcases attempted.exists_statement member with ⟨statement, mentioned, statementValid, text⟩
  rw [text]
  rcases Statement.mem_forProperties mentioned with rfl | rfl
  · exact (Statement.rename_sql_ne_assign_sql valid statementValid).symm
  · exact (Statement.rename_sql_ne_reset_sql valid statementValid).symm

/-- Nothing that is sent behind a rename is a rename again. -/
theorem ne_rename_of_settleEnds {renamed : Bool}
    (ends : SettleEnds limit prior current desired renamed identifier outcome sent)
    (valid : (Statement.rename recorded target).violations = []) {exchange : Exchange}
    (member : exchange ∈ sent) : exchange.sql ≠ (Statement.rename recorded target).sql := by
  cases ends with
  | unsettled attempted _ => exact ne_rename_of_settles attempted valid member
  | readBack attempted text _ =>
      rcases List.mem_append.1 member with member | member
      · exact ne_rename_of_settles attempted valid member
      · rw [List.mem_singleton.1 member, text]
        exact Statement.lookup_sql_ne_alter_sql valid

/-- An update whose rename was executed goes on under the new name. -/
theorem settleEnds_of_executed_rename
    (ends : UpdateEnds limit prior recorded current desired outcome exchanges)
    (executed : Executed limit exchanges (.rename recorded desired.identifier)) :
    ∃ before sent, exchanges = before ++ sent ∧
      Attempted limit [.rename recorded desired.identifier] before true ∧
        SettleEnds limit prior current desired true desired.identifier outcome sent := by
  cases ends with
  | rejected _ => simp [Executed] at executed
  | unrenamed attempted _ => exact absurd executed (not_executed_of_unrenamed attempted _)
  | @renamed _ before sent attempted settled =>
      by_cases same : current.name = desired.name
      · rw [renames, if_pos same] at attempted
        cases attempted
        -- Nothing is renamed, and no other statement has the text of the rename.
        rcases executed with ⟨valid, exchange, member, text, -⟩
        exact absurd text (ne_rename_of_settleEnds settled valid member)
      · rw [renames_of_ne same] at attempted
        rw [settledIdentifier_of_ne same, decide_eq_true same] at settled
        exact ⟨before, sent, rfl, attempted, settled⟩

theorem ne_lookup_of_renamed
    (attempted : Attempted limit [.rename recorded identifier] sent succeeded)
    {exchange : Exchange} (member : exchange ∈ sent) :
    exchange.sql ≠ (ContactsService.lookup target).sql := by
  rcases attempted.exists_statement member with ⟨statement, mentioned, valid, text⟩
  rw [List.mem_singleton.1 mentioned] at valid text
  rw [text]
  exact (Statement.lookup_sql_ne_alter_sql valid).symm

theorem name_ne_of_rename_valid (valid : (Statement.rename recorded target).violations = []) :
    target.name ≠ "" := by
  simp only [Statement.rename, Statement.violations, AlterContact.violations, Option.elim_some,
    List.append_eq_nil_iff, Violation.unless_eq_nil_iff] at valid
  simpa [Identifier.isValid] using valid.1.1.2

theorem name_ne_of_executed_rename
    (executed : Executed limit exchanges (.rename recorded desired.identifier)) :
    desired.identifier.name ≠ "" :=
  name_ne_of_rename_valid executed.1

end afterRename

/--
An update that fails although its rename was executed carries a state under the new identifier
exactly when it did not get as far as reading back: a failure of the property statements carries it,
a failure to read back does not.
-/
theorem carries_new_identity_iff_not_read_back (provider : ContactProvider σ) (session : Session σ)
    {resourceType : String} {prior planned : Value} {recorded : Identifier}
    {current desired : ContactAttributes} {error : ProviderError}
    (recordedAs : stateIdentifier prior = .ok recorded)
    (currently : ContactAttributes.ofState prior = .ok current)
    (desires : ContactAttributes.ofState planned = .ok desired)
    (renamed : Executed provider.config.limit?
      (provider.updateExchanges resourceType prior planned session)
      (.rename recorded desired.identifier))
    (fails : ((provider.update resourceType prior planned).run session).1 = .error error) :
    (∃ state cause, error = .partialUpdate state cause ∧
        stateIdentifier state = .ok desired.identifier) ↔
      ∀ exchange ∈ provider.updateExchanges resourceType prior planned session,
        exchange.sql ≠ (ContactsService.lookup desired.identifier).sql := by
  have ends := provider.update_ends resourceType recordedAs currently desires session
  rcases settleEnds_of_executed_rename ends renamed with ⟨before, sent, parts, attempted, settled⟩
  rw [fails] at settled
  rw [parts]
  cases settled with
  -- The property statements failed: the state is carried, and no lookup was sent yet.
  | @unsettled cause _ unsettled plain =>
      refine iff_of_true ?_ ?_
      · exact ⟨_, cause, rfl, stateIdentifier_renamedState prior (name_ne_of_executed_rename renamed)⟩
      · intro exchange member
        rcases List.mem_append.1 member with member | member
        · exact ne_lookup_of_renamed attempted member
        · exact ne_lookup_of_settles unsettled member
  -- The lookup was sent, and its failure is handed on as it is.
  | @readBack _ _ exchange _ text plain =>
      refine iff_of_false ?_ ?_
      · rintro ⟨state, cause, rfl, -⟩
        cases plain _ rfl
      · intro missing
        exact missing exchange (by simp) text

def opsState : Value :=
  .object [("comment", .string "on duty"), ("email", .string "ops@example.com"),
    ("id", .string "OPS"), ("name", .string "OPS")]

def oncallState : Value :=
  .object [("comment", .null), ("email", .string "oncall@example.com"), ("id", .null),
    ("name", .string "ONCALL")]

def scripted : ContactProvider Script :=
  ⟨Script.client, {}⟩

def answering (answers : List (Except ClientError Unit)) : Session Script :=
  ⟨{ execAnswers := answers, queryAnswers := [.error (.connection "reset")] }, []⟩

def oncallExchanges (answers : List (Except ClientError Unit)) : List Exchange :=
  scripted.updateExchanges contactResourceType opsState oncallState (answering answers)

theorem carries_new_identity_refused_assignment :
    ∃ error, Executed scripted.config.limit?
        (oncallExchanges [.ok (), .error (.execution none "denied")])
        (.rename ⟨"OPS"⟩ ⟨"ONCALL"⟩) ∧
      ((scripted.update contactResourceType opsState oncallState).run
        (answering [.ok (), .error (.execution none "denied")])).1 = .error error ∧
      ((∃ state cause, error = .partialUpdate state cause ∧
          stateIdentifier state = .ok ⟨"ONCALL"⟩) ↔
        ∀ exchange ∈ oncallExchanges [.ok (), .error (.execution none "denied")],
          exchange.sql ≠ (ContactsService.lookup ⟨"ONCALL"⟩).sql) := by
  have renamed : Executed scripted.config.limit?
      (oncallExchanges [.ok (), .error (.execution none "denied")])
      (.rename ⟨"OPS"⟩ ⟨"ONCALL"⟩) := by decide +kernel
  have recordedAs : stateIdentifier opsState = .ok ⟨"OPS"⟩ := rfl
  have currently : ContactAttributes.ofState opsState =
      .ok ⟨"OPS", "ops@example.com", some "on duty"⟩ := rfl
  have desires : ContactAttributes.ofState oncallState =
      .ok ⟨"ONCALL", "oncall@example.com", none⟩ := rfl
  exact ⟨_, renamed, rfl,
    carries_new_identity_iff_not_read_back scripted _ recordedAs currently desires renamed rfl⟩

def renamedOpsState : Value :=
  .object [("comment", .string "on duty"), ("email", .string "ops@example.com"),
    ("name", .string "ONCALL")]

/-- The rename succeeds and reading back fails: the error does not tell the new identifier. -/
theorem failed_read_back_loses_identity :
    Executed scripted.config.limit?
        (scripted.updateExchanges contactResourceType opsState renamedOpsState (answering []))
        (.rename ⟨"OPS"⟩ ⟨"ONCALL"⟩) ∧
      ((scripted.update contactResourceType opsState renamedOpsState).run (answering [])).1 =
        .error (.sdk "connection error: reset") :=
  ⟨by decide +kernel, rfl⟩

/-! ### The state that an update carries -/

/--
The attributes of a renamed contact after the statements of an update that were executed: what an
assignment gives, no comment where it was reset, and what was there before otherwise.
-/
def attributesAfter (limit : Option Nat) (exchanges : List Exchange)
    (current desired : ContactAttributes) : ContactAttributes where
  name := desired.name
  email :=
    if Executed limit exchanges (.assign desired.identifier (propertiesToSet current desired)) then
      (propertiesToSet current desired).email.getD current.email
    else current.email
  comment :=
    if Executed limit exchanges (.reset desired.identifier (propertiesToUnset current desired)) then
      none
    else if Executed limit exchanges
        (.assign desired.identifier (propertiesToSet current desired)) then
      (propertiesToSet current desired).comment <|> current.comment
    else current.comment

section carried

variable {limit : Option Nat} {prior state : Value} {recorded identifier : Identifier}
  {current desired : ContactAttributes} {cause : ProviderError}
  {exchanges before sent : List Exchange}

/-- An update that carries a state has renamed the contact and failed to settle its properties. -/
theorem unsettled_of_partialUpdate
    (ends : UpdateEnds limit prior recorded current desired (.error (.partialUpdate state cause))
      exchanges) :
    state = renamedState prior desired.identifier ∧
      ∃ before sent, exchanges = before ++ sent ∧
        Attempted limit [.rename recorded desired.identifier] before true ∧
          Attempted limit (settles desired.identifier current desired) sent false := by
  generalize result : (Except.error (ProviderError.partialUpdate state cause) :
    Except ProviderError Value) = outcome at ends
  cases ends with
  | rejected plain =>
      cases result
      cases plain
  | unrenamed _ plain =>
      cases result
      cases plain
  | @renamed _ before sent attempted settled =>
      cases settled with
      | readBack _ _ plain =>
          subst result
          cases plain _ rfl
      | unsettled unsettled plain =>
          by_cases same : current.name = desired.name
          · simp only [same, ne_eq, not_true_eq_false, decide_false, Bool.false_eq_true, if_false,
              Except.error.injEq] at result
            subst result
            cases plain
          · simp only [ne_eq, same, not_false_eq_true, decide_true, if_true, Except.error.injEq,
              ProviderError.partialUpdate.injEq] at result
            rw [settledIdentifier_of_ne same] at result unsettled
            rw [renames_of_ne same] at attempted
            exact ⟨result.1, before, sent, rfl, attempted, unsettled⟩

/-- When the property statements fail, an assignment is all that can have been executed. -/
theorem assigned_of_executed
    (attempted : Attempted limit [.rename recorded identifier] before true)
    (unsettled : Attempted limit (settles identifier current desired) sent false)
    {statement : Statement} (executed : Executed limit (before ++ sent) statement)
    (notRename : (Statement.rename recorded identifier).violations = [] →
      (Statement.rename recorded identifier).sql ≠ statement.sql) :
    (Statement.assign identifier (propertiesToSet current desired)).violations = [] ∧
      (Statement.assign identifier (propertiesToSet current desired)).sql = statement.sql ∧
        propertiesToSet current desired ≠ {} ∧ propertiesToUnset current desired ≠ {} := by
  rcases executed with ⟨valid, exchange, member, text, succeeds⟩
  rcases List.mem_append.1 member with member | member
  · rcases attempted.exists_statement member with ⟨rename, mentioned, renameValid, renameText⟩
    rw [List.mem_singleton.1 mentioned] at renameValid renameText
    exact absurd (renameText.symm.trans text) (notRename renameValid)
  · rcases unsettled.split_of_executed ⟨valid, exchange, member, text, succeeds⟩ with
      ⟨first, other, after, parts, otherValid, otherText, followed⟩
    rcases Statement.eq_assign_of_forProperties_split parts (followed rfl) with
      ⟨rfl, assigns, resets⟩
    exact ⟨otherValid, otherText, assigns, resets⟩

theorem of_propertiesToUnset_ne (resets : propertiesToUnset current desired ≠ {}) :
    current.comment ≠ desired.comment ∧ desired.comment = none := by
  simpa [propertiesToUnset] using resets

theorem of_propertiesToSet_ne (comment : desired.comment = none)
    (assigns : propertiesToSet current desired ≠ {}) :
    current.email ≠ desired.email ∧
      propertiesToSet current desired = { email := some desired.email } := by
  by_cases same : current.email = desired.email
  · simp [propertiesToSet, same, comment] at assigns
  · simp [propertiesToSet, same, comment]

/-- If no property statement was executed, only the name has changed. -/
theorem attributesAfter_of_not_executed
    (notAssigned : ¬Executed limit exchanges
      (.assign desired.identifier (propertiesToSet current desired)))
    (notReset : ¬Executed limit exchanges
      (.reset desired.identifier (propertiesToUnset current desired))) :
    attributesAfter limit exchanges current desired =
      ⟨desired.name, current.email, current.comment⟩ := by
  rw [attributesAfter, if_neg notAssigned, if_neg notReset, if_neg notAssigned]

/-- An assignment that was executed where no comment is wanted has changed the address. -/
theorem email_attributesAfter_of_executed
    (assigned : Executed limit exchanges
      (.assign desired.identifier (propertiesToSet current desired)))
    (comment : desired.comment = none) (assigns : propertiesToSet current desired ≠ {}) :
    (attributesAfter limit exchanges current desired).email = desired.email := by
  rw [attributesAfter, if_pos assigned, (of_propertiesToSet_ne comment assigns).2]
  rfl

end carried

/--
A state that a failed update carries has the former address and comment. It reflects the statements
that were executed exactly when no assignment was among them, and the new name is one that reading
does not change.
-/
theorem carried_state_reflects_steps_iff (provider : ContactProvider σ) (session : Session σ)
    {resourceType : String} {prior planned state : Value} {recorded : Identifier}
    {current desired : ContactAttributes} {cause : ProviderError}
    (recordedAs : stateIdentifier prior = .ok recorded)
    (currently : ContactAttributes.ofState prior = .ok current)
    (desires : ContactAttributes.ofState planned = .ok desired)
    (fails : ((provider.update resourceType prior planned).run session).1 =
      .error (.partialUpdate state cause)) :
    ∃ carried, ContactAttributes.ofState state = .ok carried ∧
      carried.email = current.email ∧ carried.comment = current.comment ∧
      (carried = attributesAfter provider.config.limit?
          (provider.updateExchanges resourceType prior planned session) current desired ↔
        ContactAttributes.IsNormalName desired.name ∧
          ¬Executed provider.config.limit?
            (provider.updateExchanges resourceType prior planned session)
            (.assign desired.identifier (propertiesToSet current desired))) := by
  have ends := provider.update_ends resourceType recordedAs currently desires session
  rw [fails] at ends
  rcases unsettled_of_partialUpdate ends with ⟨rfl, before, sent, parts, attempted, unsettled⟩
  rw [parts]
  cases prior with
  | object entries =>
      refine ⟨_, ofState_renamedState currently desired.identifier, rfl, rfl, ?_⟩
      -- The reset comes last, so it was not executed if one of the statements failed.
      have notReset : ¬Executed provider.config.limit? (before ++ sent)
          (.reset desired.identifier (propertiesToUnset current desired)) := by
        intro reset
        rcases assigned_of_executed attempted unsettled reset
          (Statement.rename_sql_ne_reset_sql · reset.1) with ⟨valid, same, -, -⟩
        exact absurd same (Statement.assign_sql_ne_reset_sql valid reset.1)
      by_cases assigned : Executed provider.config.limit? (before ++ sent)
          (.assign desired.identifier (propertiesToSet current desired))
      · rcases assigned_of_executed attempted unsettled assigned
          (Statement.rename_sql_ne_assign_sql · assigned.1) with ⟨-, -, assigns, resets⟩
        -- With a reset behind it the assignment is about the address alone, and changes it.
        have comment := (of_propertiesToUnset_ne resets).2
        refine iff_of_false ?_ (fun settled => settled.2 assigned)
        intro reflects
        have email := congrArg ContactAttributes.email reflects
        rw [email_attributesAfter_of_executed assigned comment assigns] at email
        exact (of_propertiesToSet_ne comment assigns).1 email
      · rw [attributesAfter_of_not_executed assigned notReset,
          ← ContactAttributes.normalName_eq_self_iff, and_iff_left assigned]
        simp [ContactAttributes.identifier]
  | _ => cases recordedAs

theorem carried_state_reflects_refused_assignment :
    ∃ state cause carried, ((scripted.update contactResourceType opsState oncallState).run
        (answering [.ok (), .error (.execution none "denied")])).1 =
          .error (.partialUpdate state cause) ∧
      ContactAttributes.ofState state = .ok carried ∧
      carried = attributesAfter scripted.config.limit?
        (oncallExchanges [.ok (), .error (.execution none "denied")])
        ⟨"OPS", "ops@example.com", some "on duty"⟩ ⟨"ONCALL", "oncall@example.com", none⟩ := by
  have fails : ((scripted.update contactResourceType opsState oncallState).run
      (answering [.ok (), .error (.execution none "denied")])).1 =
        .error (.partialUpdate _ _) := rfl
  rcases carried_state_reflects_steps_iff scripted _ rfl rfl rfl fails with
    ⟨carried, decodes, -, -, reflects⟩
  refine ⟨_, _, carried, fails, decodes, reflects.2 ⟨.inr ?_, ?_⟩⟩
  · decide +kernel
  · decide +kernel

/-- The assignment succeeds and the reset is refused: the carried state has the former address. -/
theorem carried_state_misses_assignment :
    ∃ state cause, ((scripted.update contactResourceType opsState oncallState).run
        (answering [.ok (), .ok (), .error (.execution none "denied")])).1 =
          .error (.partialUpdate state cause) ∧
      ContactAttributes.ofState state = .ok ⟨"ONCALL", "ops@example.com", some "on duty"⟩ ∧
      attributesAfter scripted.config.limit?
          (oncallExchanges [.ok (), .ok (), .error (.execution none "denied")])
          ⟨"OPS", "ops@example.com", some "on duty"⟩ ⟨"ONCALL", "oncall@example.com", none⟩ =
        ⟨"ONCALL", "oncall@example.com", some "on duty"⟩ := by
  refine ⟨_, _, rfl, rfl, ?_⟩
  decide +kernel

end ContactProvider

end AlertContacts
