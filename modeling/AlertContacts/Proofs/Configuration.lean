import AlertContacts.Proofs.Identity
import AlertContacts.Proofs.Plan
import AlertContacts.Proofs.Refusal
import AlertContacts.Proofs.Schema

/-!
# Accepted configurations

A configuration without diagnostics gives a contact a name and an email address, and a comment or none
(`ContactProvider.exists_decode_of_accepted`); what stands under the computed attributes makes no
difference. It decodes, its name keeps a character however often it is read, and so the statement that
creates the contact breaks no rule.

So an accepted configuration goes through: it is planned, and creating the contact of the plan sends the
`CREATE` statement first (`ContactProvider.accepted_configuration_goes_through`).
-/

namespace AlertContacts

open Json

variable {σ : Type}

namespace ContactAttributes

variable {attributes : ContactAttributes} {entries : Entries Value}

/-- Without a key that occurs twice there is nothing to decode but what is found. -/
theorem decode_of_foundIn (ascending : entries.Ascending) (found : attributes.FoundIn entries) :
    decode (.object entries) = .ok attributes := by
  refine decode_object_iff.2 ⟨Record.visit_eq_ok_iff.2 ?_, found⟩
  rintro ⟨key, value⟩ member field named
  have written := Entries.find?_of_mem ascending member
  have same : field.name = key := by simpa using List.find?_some named
  have declared := List.mem_of_find?_eq_some named
  change field ∈ [_, _, _] at declared
  simp only [List.mem_cons, List.not_mem_nil, or_false] at declared
  rcases declared with rfl | rfl | rfl
  · cases same
    cases written.symm.trans found.name
    rfl
  · cases same
    cases written.symm.trans found.email
    rfl
  · cases same
    have comment := found.comment
    rw [written, Option.elim_some] at comment
    simp only [comment]
    rfl

theorem normalName_ne {name : String} (nonempty : name ≠ "") : normalName name ≠ "" := by
  rw [normalName]
  cases parsed : Identifier.parse name with
  | ok identifier => exact Identifier.name_ne_of_parse parsed
  | error error => exact nonempty

/-- What creates a contact with the attributes. -/
def creation (attributes : ContactAttributes) : CreateContact where
  name := attributes.identifier
  email := attributes.email
  comment := attributes.comment

/-- What creates a contact with a name breaks no rule. -/
theorem creation_valid (named : attributes.name ≠ "") :
    (Statement.create attributes.creation).violations = [] := by
  simp [Statement.violations, CreateContact.violations, creation, identifier, Identifier.isValid,
    everySet, named]

end ContactAttributes

namespace ContactProvider

open ContactAttributes

/-! ### Accepted configurations -/

/-- An accepted configuration is an object with the attributes of a contact in it, among them a name. -/
theorem exists_foundIn_of_accepted {config : Value} (present : config ≠ .null)
    (accepted : contactDiagnostics config = []) :
    ∃ entries attributes, config = .object entries ∧ FoundIn attributes entries ∧
      attributes.name ≠ "" := by
  rcases List.append_eq_nil_iff.1 accepted with ⟨valid, named⟩
  cases config with
  | null => exact absurd rfl present
  | object entries =>
      have nameDeclared : contactSchema.attributes.find? "name" = some _ := rfl
      have emailDeclared : contactSchema.attributes.find? "email" = some _ := rfl
      have commentDeclared : contactSchema.attributes.find? "comment" = some _ := rfl
      have nameFits := Schema.checkAttribute_eq_nil_of_find? nameDeclared valid
      have emailFits := Schema.checkAttribute_eq_nil_of_find? emailDeclared valid
      have commentFits := Schema.checkAttribute_eq_nil_of_find? commentDeclared valid
      rw [Schema.checkAttribute_string_eq_nil_iff rfl rfl] at nameFits emailFits commentFits
      rcases nameFits with ⟨name, nameFound⟩ | ⟨⟨⟩, -⟩
      rcases emailFits with ⟨email, emailFound⟩ | ⟨⟨⟩, -⟩
      have nonempty : name ≠ "" := by
        rw [Value.get?, nameFound] at named
        simpa [Value.text?, Identifier.isValid] using named
      rcases commentFits with ⟨comment, commentFound⟩ | ⟨-, absent | null⟩
      · refine ⟨entries, ⟨name, email, some comment⟩, rfl, ⟨nameFound, emailFound, ?_⟩, nonempty⟩
        rw [commentFound]
        rfl
      · refine ⟨entries, ⟨name, email, none⟩, rfl, ⟨nameFound, emailFound, ?_⟩, nonempty⟩
        rw [absent]
        rfl
      · refine ⟨entries, ⟨name, email, none⟩, rfl, ⟨nameFound, emailFound, ?_⟩, nonempty⟩
        rw [null]
        rfl
  | _ => cases valid

/-- An accepted configuration decodes, to attributes with a name. -/
theorem exists_decode_of_accepted {config : Value} (ordered : config.Ordered)
    (present : config ≠ .null) (accepted : contactDiagnostics config = []) :
    ∃ attributes, decode config = .ok attributes ∧ attributes.name ≠ "" := by
  rcases exists_foundIn_of_accepted present accepted with ⟨entries, attributes, rfl, found, named⟩
  exact ⟨attributes, decode_of_foundIn ordered.1 found, named⟩

/-- Validating a configuration never fails: it answers with the diagnostics. -/
theorem outcome_validateResourceConfig (config : Value) (session : Session σ) :
    ((validateResourceConfig contactResourceType config).run session).1 =
      .ok (contactDiagnostics config) := by
  unfold validateResourceConfig
  cases found : (contactDiagnostics config).isEmpty with
  | true => simp [found, checkResourceType]
  | false => simp [found, checkResourceType, Session.log]

/-- Without a prior state a plan is one for a new contact. -/
theorem outcome_plan_none {config : Value} (present : config ≠ .null) {result : PlanResult}
    (planned : planCreate config = .ok result) (session : Session σ) :
    ((plan contactResourceType none config).run session).1 = .ok result := by
  rw [plan, planStates_none present, planned]
  rfl

/-! ### Creating a contact -/

/-- A statement was sent first. -/
def SentFirst (statement : Statement) (sent : List Exchange) : Prop :=
  ∃ exchange later, sent = exchange :: later ∧ exchange.sql = statement.sql

/-- What is sent to create the contact of a planned state. -/
def createExchanges (provider : ContactProvider σ) (resourceType : String) (planned : Value)
    (session : Session σ) : List Exchange :=
  ((provider.recording.create resourceType planned).run session.recording).2.client.exchanges

/-- A create whose planned state decodes: the one statement, and reading back. -/
theorem create_eq (provider : ContactProvider σ) {planned : Value} {desired : ContactAttributes}
    (desires : ofState planned = .ok desired) :
    provider.create contactResourceType planned = (do
      let contacts := provider.contacts (span "create" contactResourceType)
      reporting contacts "Create failed" desired.identifier
        (provider.bounded (contacts.create desired.creation))
      contacts.log .info "Notification contact created"
        [("contact", .string desired.identifier.sql)]
      provider.readBack contacts desired.identifier) := by
  rw [create, desires]
  rfl

section create

variable (provider : ContactProvider σ) {planned : Value} {desired : ContactAttributes}
  (desires : ofState planned = .ok desired) (named : desired.name ≠ "")

include desires named

/-- Whatever comes of a create, its statement is sent first. -/
theorem sends_create : (provider.recording.create contactResourceType planned).Sends
    fun _ sent => SentFirst (.create desired.creation) sent := by
  have valid := creation_valid named
  let contacts := provider.contacts (span "create" contactResourceType)
  have creates := ((contacts.on "contacts.create" desired.identifier).sends_execute
    (.create desired.creation)).weaken fun _ _ attempted => attempted.sentOnce valid
  have bounds := (provider.sends_bounded (fun _ => SentOnce (.create desired.creation))
    creates).weaken fun _ _ facts => facts.1
  have reported := sends_reporting contacts.recording "Create failed" desired.identifier bounds
  rw [create_eq _ desires]
  refine reported.bind ?_ ?_
  · rintro error _ ⟨exchange, rfl, text⟩
    exact ⟨exchange, [], rfl, text⟩
  · rintro _ _ ⟨exchange, rfl, text⟩
    refine .log_bind ((provider.sends_readBack contacts desired.identifier).weaken ?_)
    intro outcome sent _
    exact ⟨exchange, sent, rfl, text⟩

theorem sentFirst_createExchanges (session : Session σ) :
    SentFirst (.create desired.creation)
      (provider.createExchanges contactResourceType planned session) := by
  rcases provider.sends_create desires named session.recording with ⟨sent, added, first⟩
  rw [createExchanges, added]
  exact first

/-- A create whose planned state decodes is never refused before it is tried. -/
theorem failsOnly_create :
    (provider.create contactResourceType planned).FailsOnly fun error => ¬error.IsRefusal := by
  let contacts := provider.contacts (span "create" contactResourceType)
  have creates := (contacts.on "contacts.create" desired.identifier).failsOnly_execute
    (creation_valid named)
  have reported := failsOnly_reporting contacts "Create failed" desired.identifier
    (provider.failsOnly_bounded creates)
  rw [create_eq _ desires]
  refine .bind reported fun _ => ?_
  exact .bind (.log _) fun _ => provider.failsOnly_readBack contacts desired.identifier

end create

/--
A configuration without diagnostics is planned, and creating the contact of the plan sends the `CREATE`
statement of the planned attributes first, which the platform reads as such. The request is never refused.
-/
theorem accepted_configuration_goes_through {config : Value} (ordered : config.Ordered)
    (present : config ≠ .null) {validating : Session σ}
    (accepted : ((validateResourceConfig contactResourceType config).run validating).1 = .ok [])
    (provider : ContactProvider σ) (planning creating : Session σ) :
    ∃ result desired, ((plan contactResourceType none config).run planning).1 = .ok result ∧
      ofState result.plannedState = .ok desired ∧
      SentFirst (.create desired.creation)
        (provider.createExchanges contactResourceType result.plannedState creating) ∧
      Statement.ofSql? (Statement.create desired.creation).sql = some (.create desired.creation) ∧
      ∀ error, ((provider.create contactResourceType result.plannedState).run creating).1 =
        .error error → ¬error.IsRefusal := by
  rw [outcome_validateResourceConfig, Except.ok.injEq] at accepted
  rcases exists_decode_of_accepted ordered present accepted with ⟨attributes, decodes, named⟩
  rcases exists_planCreate decodes with ⟨result, planned, plannedDecodes⟩
  have desires := ofState_eq_ok_iff.2 ⟨_, plannedDecodes, rfl⟩
  -- The name is read twice, by the plan and again by the create.
  have stillNamed : attributes.normalized.normalized.name ≠ "" := by
    rw [name_normalized, name_normalized]
    exact normalName_ne (normalName_ne named)
  exact ⟨result, _, outcome_plan_none present planned planning, desires,
    provider.sentFirst_createExchanges desires stillNamed creating,
    Statement.ofSql?_sql (creation_valid stillNamed),
    provider.failsOnly_create desires stillNamed creating⟩

/-- A configuration with a name of two quotes, and something else under computed attributes. -/
def quotesOnlyConfig : Value :=
  .object [("comment", .null), ("email", .string "ops@example.com"), ("id", .boolean true),
    ("name", .string "\"\""), ("show_output", .string "none")]

theorem accepted_configuration_goes_through_quotes_only :
    ((validateResourceConfig contactResourceType quotesOnlyConfig).run (answering [])).1 =
        .ok [] ∧
      ∃ result, ((plan contactResourceType none quotesOnlyConfig).run (answering [])).1 =
          .ok result ∧
        SentFirst (.create { name := ⟨"\"\""⟩, email := "ops@example.com" })
          (scripted.createExchanges contactResourceType result.plannedState (answering [])) := by
  have ordered : quotesOnlyConfig.Ordered :=
    ⟨by decide, trivial, trivial, trivial, trivial, trivial, trivial⟩
  have accepted : ((validateResourceConfig contactResourceType quotesOnlyConfig).run
      (answering [])).1 = .ok [] := rfl
  rcases accepted_configuration_goes_through ordered (by rintro ⟨⟩) accepted scripted (answering [])
    (answering []) with ⟨result, desired, plans, desires, first, -⟩
  refine ⟨accepted, result, plans, ?_⟩
  have planned : ((plan contactResourceType none quotesOnlyConfig).run (answering [])).1 =
      .ok _ := rfl
  cases planned.symm.trans plans
  cases desires
  exact first

end ContactProvider

end AlertContacts
