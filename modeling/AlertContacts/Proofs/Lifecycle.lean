import AlertContacts.Proofs.Course
import AlertContacts.Trial.Lifecycle

/-!
# Lifecycles

A lifecycle drives the contact of a configuration through a whole course: it plans, creates and reads the
contact, plans, updates and reads it, and plans to delete it and does. Each call takes the state that the
last one gave.

The identifier is handed over in these states. What is read back is the state of a contact of exactly the
name that was looked up, and the state is recorded under that name, so the next call is about it again. Only
a read that finds no contact gives null, and no plan can start from that. So a lifecycle that ends with a
state has run its whole course, with nothing left out (`ContactProvider.lifecycle_runs_its_course`).
-/

namespace AlertContacts

open Json

variable {σ ε α β : Type}

/-! ### Hosted runs -/

theorem Hosted.run_run (operation : ContactProvider σ → Run (Session σ) ε α) (hosted : Hosted σ) :
    (Hosted.run operation).run hosted =
      (((operation hosted.provider).run hosted.session).1,
        ⟨hosted.provider, ((operation hosted.provider).run hosted.session).2⟩) := rfl

/-- Two calls of a host one behind the other are one call that does both. -/
theorem Hosted.run_bind (first : ContactProvider σ → Run (Session σ) ε α)
    (next : α → ContactProvider σ → Run (Session σ) ε β) :
    (Hosted.run first >>= fun result => Hosted.run (next result)) =
      Hosted.run fun provider => first provider >>= fun result => next result provider := by
  suffices same : ∀ hosted, (Hosted.run first >>= fun result => Hosted.run (next result)).run hosted =
      (Hosted.run fun provider => first provider >>= fun result => next result provider).run hosted from
    congrArg Run.mk (funext same)
  intro hosted
  rw [Run.run_bind, Hosted.run_run, Hosted.run_run, Run.run_bind]
  rcases (first hosted.provider).run hosted.session with ⟨error | result, session⟩
  · rfl
  · rfl

theorem Hosted.run_pure (result : α) :
    (pure result : Run (Hosted σ) ε α) = Hosted.run fun _ => pure result := rfl

namespace ContactProvider

/-! ### The calls of a lifecycle -/

section calls

variable (provider : ContactProvider σ) (resourceType : String)

def createAndRead (config : Value) : Run (Session σ) ProviderError Value := do
  let planned ← plan resourceType none config
  let created ← provider.create resourceType planned.plannedState
  provider.read resourceType created

def updateAndRead (prior proposed : Value) : Run (Session σ) ProviderError Value := do
  let planned ← plan resourceType (some prior) proposed
  let updated ← provider.update resourceType prior planned.plannedState
  provider.read resourceType updated

def planAndDelete (current : Value) : Run (Session σ) ProviderError Unit := do
  let _ ← plan resourceType (some current) .null
  provider.delete resourceType current

def createUpdateDelete (initial updated : Value) : Run (Session σ) ProviderError Value := do
  let created ← provider.createAndRead resourceType initial
  let state ← provider.updateAndRead resourceType created updated
  provider.planAndDelete resourceType state
  return state

/-- A host changes nothing about its provider on the way. -/
theorem lifecycleCrud_eq (initial updated : Value) :
    (ContactProvider.provider : Provider (Hosted σ)).lifecycleCrud resourceType initial updated =
      Hosted.run fun provider => provider.createUpdateDelete resourceType initial updated := by
  unfold Provider.lifecycleCrud Provider.lifecycleCreate Provider.lifecycleUpdate
    Provider.lifecycleDelete Provider.planCreate Provider.planUpdate Provider.planDelete
  simp only [ContactProvider.provider, Hosted.run_pure, Hosted.run_bind]
  rfl

/-! ### Recording a lifecycle -/

/-- Planning asks no client, so it does not matter whether there is a recording one. -/
theorem mirrors_plan (prior : Option Value) (proposed : Value) :
    (plan resourceType prior proposed : Run (Session (Recorded σ)) ProviderError PlanResult).Mirrors
      (plan resourceType prior proposed) := by
  refine (Run.Mirrors.ofExcept _).bind ?_
  intro _
  refine (Run.Mirrors.ofExcept _).bind ?_
  intro result
  exact (Run.Mirrors.log _).bind fun _ => .ofExcept (.ok result)

theorem mirrors_create (planned : Value) :
    (provider.recording.create resourceType planned).Mirrors
      (provider.create resourceType planned) := by
  let contacts := provider.contacts (span "create" resourceType)
  refine (Run.Mirrors.ofExcept _).bind ?_
  intro _
  refine (Run.Mirrors.ofExcept _).bind ?_
  intro desired
  have creates := (contacts.on "contacts.create" desired.identifier).mirrors_execute
    (.create desired.creation)
  refine (mirrors_reporting contacts _ _ (provider.mirrors_bounded creates)).bind ?_
  intro _
  refine (Run.Mirrors.log _).bind ?_
  intro _
  exact provider.mirrors_readBack contacts desired.identifier

theorem mirrors_read (current : Value) :
    (provider.recording.read resourceType current).Mirrors (provider.read resourceType current) := by
  refine (Run.Mirrors.ofExcept _).bind ?_
  intro _
  refine (Run.Mirrors.ofExcept _).bind ?_
  intro identifier
  refine (provider.mirrors_readContact (provider.contacts (span "read" resourceType))
    identifier).bind ?_
  intro found
  cases found with
  | none => exact (Run.Mirrors.log _).bind fun _ => .ofExcept (.ok _)
  | some state => exact .ofExcept (.ok state)

theorem mirrors_delete (current : Value) :
    (provider.recording.delete resourceType current).Mirrors
      (provider.delete resourceType current) := by
  let contacts := provider.contacts (span "delete" resourceType)
  refine (Run.Mirrors.ofExcept _).bind ?_
  intro _
  refine (Run.Mirrors.ofExcept _).bind ?_
  intro identifier
  have drops := (contacts.on "contacts.drop" identifier).mirrors_execute (.drop { name := identifier })
  refine (mirrors_reporting contacts _ _ (provider.mirrors_bounded drops)).bind ?_
  intro _
  exact .log _

/-- A lifecycle ends the same over a recording client. -/
theorem mirrors_createUpdateDelete (initial updated : Value) :
    (provider.recording.createUpdateDelete resourceType initial updated).Mirrors
      (provider.createUpdateDelete resourceType initial updated) := by
  have creates : (provider.recording.createAndRead resourceType initial).Mirrors
      (provider.createAndRead resourceType initial) := by
    refine (mirrors_plan resourceType none initial).bind ?_
    intro planned
    refine (provider.mirrors_create resourceType planned.plannedState).bind ?_
    intro created
    exact provider.mirrors_read resourceType created
  refine creates.bind ?_
  intro created
  have updates : (provider.recording.updateAndRead resourceType created updated).Mirrors
      (provider.updateAndRead resourceType created updated) := by
    refine (mirrors_plan resourceType (some created) updated).bind ?_
    intro planned
    refine (provider.mirrors_update resourceType created planned.plannedState).bind ?_
    intro state
    exact provider.mirrors_read resourceType state
  refine updates.bind ?_
  intro state
  have deletes : (provider.recording.planAndDelete resourceType state).Mirrors
      (provider.planAndDelete resourceType state) := by
    refine (mirrors_plan resourceType (some state) .null).bind ?_
    intro _
    exact provider.mirrors_delete resourceType state
  exact deletes.bind fun _ => .ofExcept (.ok state)

end calls

/-! ### What each call leads to -/

section success

variable {provider : ContactProvider σ} {resourceType : String} {session after : Session σ}
  {contact : Contact} {state : Value}

theorem ne_null_of_planStates {prior proposed : Value} {result : PlanResult}
    (plans : planStates (some prior) proposed = .ok result) : prior ≠ .null := by
  have changes := plansChanges_of_planStates plans
  generalize result.changes = changed at changes
  rintro rfl
  cases changes with
  | removed currently => cases currently
  | modified _ currently _ => cases currently

/-- A plan that succeeds is the plan of its two states, and leaves the client alone. -/
theorem plans_of_run_plan {prior : Option Value} {proposed : Value} {result : PlanResult}
    (succeeds : (plan resourceType prior proposed).run session = (.ok result, after)) :
    planStates prior proposed = .ok result ∧ after.client = session.client := by
  rcases Run.exists_of_run_ofExcept_bind succeeds with ⟨_, -, continues⟩
  rcases Run.exists_of_run_ofExcept_bind continues with ⟨_, plans, continues⟩
  cases continues
  exact ⟨plans, rfl⟩

/-- Reading the state of a contact again looks it up under its name, and finds it unless the state is null. -/
theorem completes_of_run_read (named : contact.name ≠ "") (present : state ≠ .null)
    (succeeds : (provider.read resourceType (contactState contact)).run session = (.ok state, after)) :
    ∃ again, state = contactState again ∧ again.name = contact.name ∧
      provider.client.Completes [.find contact.identifier] session.client after.client := by
  rcases finds_of_run_read (stateIdentifier_contactState named) present succeeds with
    ⟨again, made, finds⟩
  exact ⟨again, made, finds.name_eq, finds.completes⟩

/-- Planning, creating and reading leads to the state of a contact that was created and found twice. -/
theorem completes_of_run_createAndRead {config : Value} (present : state ≠ .null)
    (succeeds : (provider.createAndRead resourceType config).run session = (.ok state, after)) :
    ∃ (created : ContactAttributes) (contact : Contact), state = contactState contact ∧
      contact.identifier = created.identifier ∧ created.name ≠ "" ∧
        provider.client.Completes
          [.execute (.create created.creation), .find created.identifier, .find created.identifier]
          session.client after.client := by
  rcases Run.exists_of_run_bind succeeds with ⟨result, planned, plans, continues⟩
  rcases Run.exists_of_run_bind continues with ⟨written, middle, creates, reads⟩
  have decodes := creates
  rcases Run.exists_of_run_ofExcept_bind decodes with ⟨_, -, decodes⟩
  rcases Run.exists_of_run_ofExcept_bind decodes with ⟨created, desires, -⟩
  rcases exists_of_run_create desires creates with ⟨between, contact, rfl, executes, finds⟩
  rw [(plans_of_run_plan plans).2] at executes
  have named := name_ne_of_executes_create executes
  have same : contact.identifier = created.identifier := congrArg Identifier.mk finds.name_eq
  have contactNamed : contact.name ≠ "" := by rwa [finds.name_eq]
  rcases completes_of_run_read contactNamed present reads with ⟨again, rfl, sameAgain, completes⟩
  rw [same] at completes
  refine ⟨created, again, rfl, ?_, named, .executed executes (.found finds completes)⟩
  rw [← same, Contact.identifier, Contact.identifier, sameAgain]

/--
Planning, updating and reading leads on to the state of the altered contact, found twice under the
name that it has then.
-/
theorem completes_of_run_updateAndRead {proposed : Value} (named : contact.name ≠ "")
    (present : state ≠ .null)
    (succeeds : (provider.updateAndRead resourceType (contactState contact) proposed).run session =
      (.ok state, after)) :
    ∃ current desired again, state = contactState again ∧
      again.identifier = settledIdentifier contact.identifier current desired ∧ again.name ≠ "" ∧
        provider.client.Completes
          ((alterations contact.identifier current desired).map .execute ++
            [.find (settledIdentifier contact.identifier current desired),
              .find (settledIdentifier contact.identifier current desired)])
          session.client after.client := by
  rcases Run.exists_of_run_bind succeeds with ⟨result, planned, plans, continues⟩
  rcases Run.exists_of_run_bind continues with ⟨written, middle, updates, reads⟩
  have recordedAs := stateIdentifier_contactState named
  have decodes := updates
  rw [update_eq] at decodes
  rcases Run.exists_of_run_ofExcept_bind decodes with ⟨_, -, decodes⟩
  rcases Run.exists_of_run_ofExcept_bind decodes with ⟨recorded, _, decodes⟩
  rcases Run.exists_of_run_ofExcept_bind decodes with ⟨current, currently, decodes⟩
  rcases Run.exists_of_run_ofExcept_bind decodes with ⟨desired, desires, -⟩
  rcases exists_of_run_update recordedAs currently desires updates with
    ⟨between, settled, rfl, executes, finds⟩
  rw [(plans_of_run_plan plans).2] at executes
  have same : settled.identifier = settledIdentifier contact.identifier current desired :=
    congrArg Identifier.mk finds.name_eq
  have settledNamed : settled.name ≠ "" := by
    rw [finds.name_eq]
    exact settledIdentifier_named_of_executes named executes
  rcases completes_of_run_read settledNamed present reads with ⟨again, rfl, sameAgain, completes⟩
  rw [same] at completes
  refine ⟨current, desired, again, rfl, ?_, by rwa [sameAgain],
    executes.completes.append (.found finds completes)⟩
  rw [← same, Contact.identifier, Contact.identifier, sameAgain]

/-- Planning to delete a contact and deleting it executes the drop of its name. -/
theorem completes_of_run_planAndDelete (named : contact.name ≠ "")
    (succeeds : (provider.planAndDelete resourceType (contactState contact)).run session =
      (.ok (), after)) :
    provider.client.Completes [.execute (.drop { name := contact.identifier })] session.client
      after.client := by
  rcases Run.exists_of_run_bind succeeds with ⟨result, planned, plans, deletes⟩
  rcases Run.exists_of_run_ofExcept_bind deletes with ⟨_, -, continues⟩
  rcases Run.exists_of_run_ofExcept_bind continues with ⟨identifier, recordedAs, continues⟩
  cases (stateIdentifier_contactState named).symm.trans recordedAs
  rcases Run.exists_of_run_bind continues with ⟨_, dropped, reports, logs⟩
  cases logs
  have drops := run_of_run_bounded (run_of_run_reporting reports)
  have executes := ContactsService.executes_of_run_execute _ drops
  rw [(plans_of_run_plan plans).2] at executes
  exact .executed executes .done

/-- A prior state that a plan starts from is not null. -/
theorem ne_null_of_run_updateAndRead {prior proposed : Value}
    (succeeds : (provider.updateAndRead resourceType prior proposed).run session = (.ok state, after)) :
    prior ≠ .null := by
  rcases Run.exists_of_run_bind succeeds with ⟨result, planned, plans, -⟩
  exact ne_null_of_planStates (plans_of_run_plan plans).1

/-- Nothing can be planned to be deleted in a state that is null. -/
theorem ne_null_of_run_planAndDelete {current : Value}
    (succeeds : (provider.planAndDelete resourceType current).run session = (.ok (), after)) :
    current ≠ .null := by
  rcases Run.exists_of_run_bind succeeds with ⟨result, planned, plans, -⟩
  exact ne_null_of_planStates (plans_of_run_plan plans).1

/-- A lifecycle that ends with a state has run a whole course. -/
theorem completes_of_run_createUpdateDelete {initial updated : Value}
    (succeeds : (provider.createUpdateDelete resourceType initial updated).run session =
      (.ok state, after)) :
    state ≠ .null ∧ ∃ course : Course, stateIdentifier state = .ok course.target ∧
      provider.client.Completes course.steps session.client after.client := by
  rcases Run.exists_of_run_bind succeeds with ⟨first, created, creates, continues⟩
  rcases Run.exists_of_run_bind continues with ⟨second, settled, updates, continues⟩
  rcases Run.exists_of_run_bind continues with ⟨_, deleted, deletes, ends⟩
  cases ends
  -- Each state is known to be there only from the plan that starts from it, one call later.
  have present := ne_null_of_run_planAndDelete deletes
  rcases completes_of_run_createAndRead (ne_null_of_run_updateAndRead updates) creates with
    ⟨attributes, contact, rfl, same, named, createdSteps⟩
  have contactNamed : contact.name ≠ "" := by
    rwa [show contact.name = attributes.name from congrArg Identifier.name same]
  rcases completes_of_run_updateAndRead contactNamed present updates with
    ⟨current, desired, again, rfl, target, againNamed, settledSteps⟩
  have deletedSteps := completes_of_run_planAndDelete againNamed deletes
  rw [same] at target settledSteps
  refine ⟨present, .between attributes current desired, ?_, ?_⟩
  · rw [stateIdentifier_contactState againNamed, target, Course.target_between]
  · rw [Course.steps, Course.alterations_between, Course.target_between]
    rw [target] at deletedSteps
    have whole := createdSteps.append (settledSteps.append deletedSteps)
    simpa using whole

end success

/-! ### Whole lifecycles -/

/-- What a lifecycle sends. -/
def lifecycleExchanges (provider : ContactProvider σ) (resourceType : String) (initial updated : Value)
    (session : Session σ) : List Exchange :=
  ((ContactProvider.provider.lifecycleCrud resourceType initial updated).run
    ⟨provider.recording, session.recording⟩).2.session.client.exchanges

theorem lifecycleExchanges_eq (provider : ContactProvider σ) (resourceType : String)
    (initial updated : Value) (session : Session σ) :
    provider.lifecycleExchanges resourceType initial updated session =
      ((provider.recording.createUpdateDelete resourceType initial updated).run
        session.recording).2.client.exchanges := by
  rw [lifecycleExchanges, lifecycleCrud_eq, Hosted.run_run]

/--
A lifecycle that ends with a state has sent the statements of a whole course and nothing else: the contact
was created, found twice under that name, altered, found twice under the name that it had then, and dropped
under the name that the state is recorded under. The platform reads each text as the statement of its step.
Each statement was executed, and each lookup found the contact; a contact that is gone in between makes the
lifecycle fail.
-/
theorem lifecycle_runs_its_course (provider : ContactProvider σ) (session : Session σ)
    (resourceType : String) (initial updated : Value) {state : Value} {after : Hosted σ}
    (succeeds : (ContactProvider.provider.lifecycleCrud resourceType initial updated).run
      ⟨provider, session⟩ = (.ok state, after)) :
    state ≠ .null ∧ ∃ course : Course, stateIdentifier state = .ok course.target ∧
      (provider.lifecycleExchanges resourceType initial updated session).map Exchange.sql =
        Step.texts course.steps ∧
      (∀ step ∈ course.steps, Statement.ofSql? step.statement.sql = some step.statement) ∧
      provider.client.Completes course.steps session.client after.session.client := by
  -- The course is that of the recording run, of which the plain run is what remains without the record.
  rcases ran : (provider.recording.createUpdateDelete resourceType initial updated).run
    session.recording with ⟨outcome, recorded⟩
  have plain : (provider.createUpdateDelete resourceType initial updated).run session =
      (outcome, recorded.forget) := by
    have mirrored :=
      provider.mirrors_createUpdateDelete resourceType initial updated session.recording
    rwa [ran] at mirrored
  rw [lifecycleCrud_eq, Hosted.run_run] at succeeds
  simp only [plain] at succeeds
  cases succeeds
  rcases completes_of_run_createUpdateDelete ran with ⟨present, course, target, completes⟩
  rcases Client.Completes.recorded completes with ⟨completes, texts⟩
  refine ⟨present, course, target, ?_, ?_, completes⟩
  · rw [lifecycleExchanges_eq, ran]
    exact texts
  · intro step member
    exact Statement.ofSql?_sql (completes.violations_eq step member)

/-- The platform shows the contact before and after it is renamed. -/
def renamingSession : Session Script :=
  ⟨{ queryAnswers :=
      [.ok [Script.showRow "OPS" "ops@example.com" (some "on duty")],
        .ok [Script.showRow "OPS" "ops@example.com" (some "on duty")],
        .ok [Script.showRow "ONCALL" "oncall@example.com" none],
        .ok [Script.showRow "ONCALL" "oncall@example.com" none]] }, []⟩

/-- The state of the contact when it is dropped. -/
def lastOncallState : Value :=
  contactState { ContactAttributes.contactNamed "ONCALL" with email := "oncall@example.com" }

theorem lifecycle_runs_its_course_renaming :
    ∃ after, (ContactProvider.provider.lifecycleCrud contactResourceType opsState oncallState).run
        ⟨scripted, renamingSession⟩ = (.ok lastOncallState, after) ∧
      ∃ course : Course, course.target = ⟨"ONCALL"⟩ ∧ course.steps.length = 9 ∧
        (scripted.lifecycleExchanges contactResourceType opsState oncallState renamingSession).map
          Exchange.sql = Step.texts course.steps ∧
        (∀ step ∈ course.steps, Statement.ofSql? step.statement.sql = some step.statement) ∧
        Step.texts course.steps =
          ["CREATE NOTIFICATION CONTACT OPS EMAIL = 'ops@example.com' COMMENT = 'on duty'",
            "SHOW NOTIFICATION CONTACTS LIKE 'OPS'",
            "SHOW NOTIFICATION CONTACTS LIKE 'OPS'",
            "ALTER NOTIFICATION CONTACT OPS RENAME TO ONCALL",
            "ALTER NOTIFICATION CONTACT ONCALL SET EMAIL = 'oncall@example.com'",
            "ALTER NOTIFICATION CONTACT ONCALL UNSET COMMENT",
            "SHOW NOTIFICATION CONTACTS LIKE 'ONCALL'",
            "SHOW NOTIFICATION CONTACTS LIKE 'ONCALL'",
            "DROP NOTIFICATION CONTACT ONCALL"] := by
  have succeeds : (ContactProvider.provider.lifecycleCrud contactResourceType opsState oncallState).run
      ⟨scripted, renamingSession⟩ = (.ok lastOncallState, _) := rfl
  rcases lifecycle_runs_its_course scripted renamingSession contactResourceType opsState oncallState
    succeeds with ⟨-, course, target, texts, readBack, -⟩
  have named : stateIdentifier lastOncallState = .ok ⟨"ONCALL"⟩ := rfl
  have sent : (scripted.lifecycleExchanges contactResourceType opsState oncallState
      renamingSession).length = 9 := rfl
  have length := congrArg List.length texts
  refine ⟨_, succeeds, course, Except.ok.inj (target.symm.trans named), ?_, texts, readBack, ?_⟩
  · simpa [Step.texts, sent] using length.symm
  · rw [← texts]
    decide +kernel

/-- A contact that is gone when it is read again ends the lifecycle, with nothing altered or dropped. -/
example :
    let session : Session Script :=
      ⟨{ queryAnswers := [.ok [Script.showRow "OPS" "ops@example.com" (some "on duty")], .ok []] }, []⟩
    let ended := (ContactProvider.provider.lifecycleCrud contactResourceType opsState oncallState).run
      ⟨scripted, session⟩
    ended.1.isOk = false ∧ ended.2.session.client.statements.length = 3 := by
  decide +kernel

end ContactProvider

end AlertContacts
