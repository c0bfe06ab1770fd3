import AlertContacts.Proofs.Configuration

/-!
# States without keys

A state should be an object, but attributes decode from an array as well, by their position: the name,
the email address, and the comment where there is one more item (`ContactAttributes.Listed`). Whatever
else is not an object does not decode.

An operation refuses a request exactly when one of the states it reads does not decode, or, for the plan
of a change, when the prior state has no keys to write to; once the states are read, no failure is about
the request any more (`ContactProvider.neverInvalid_carryOut`). So a state that is neither null nor an object
is rejected by every operation, unless it lists the attributes: then it is planned, and a contact is
created from it (`ContactProvider.keyless_state_rejected_iff`).
-/

namespace AlertContacts

open Json

variable {σ α β : Type}

namespace ContactAttributes

/-! ### Attributes by position -/

/-- The array lists the attributes in their order; a comment at the end may be left out. -/
inductive Listed : ContactAttributes → Value → Prop where
  | short (name email : String) : Listed ⟨name, email, none⟩ (.array [.string name, .string email])
  | full (attributes : ContactAttributes) :
      Listed attributes
        (.array [.string attributes.name, .string attributes.email, attributes.commentValue])

/-- An array decodes to attributes exactly if it lists them by position. -/
theorem decode_array_iff {items : List Value} {attributes : ContactAttributes} :
    decode (.array items) = .ok attributes ↔ Listed attributes (.array items) := by
  rcases attributes with ⟨name, email, comment⟩
  constructor
  · rw [decode, Record.decoder_array_iff]
    simp only [record, Record.ofItems_and, Record.ofItems_done, Record.ofItems_required,
      Record.ofItems_withDefault, string_eq_ok_iff, optional_string_eq_ok_iff]
    -- Each field has taken its item from the front, and the last one may have found none.
    rintro ⟨_, _, _, ⟨_, _, _, ⟨_, _, _, ⟨rfl, rfl⟩, ⟨_, rfl, rfl⟩, rfl⟩, ⟨_, rfl, rfl⟩, rfl⟩,
      last, made⟩
    cases made
    rcases last with ⟨rfl, -, rfl⟩ | ⟨_, rfl, rfl⟩
    · exact .short name email
    · exact .full ⟨name, email, comment⟩
  · intro listed
    cases listed with
    | short => rfl
    | full =>
        cases comment with
        | none => rfl
        | some comment => rfl

/-- A value that is no object decodes only as a list of the attributes. -/
theorem decode_iff_listed {state : Value} {attributes : ContactAttributes}
    (keyless : ∀ entries, state ≠ .object entries) :
    decode state = .ok attributes ↔ Listed attributes state := by
  cases state with
  | array items => exact decode_array_iff
  | object entries => exact absurd rfl (keyless entries)
  | _ => exact ⟨by rintro ⟨⟩, by rintro ⟨⟩⟩

/-- A state that is no object is read only as a list of the attributes, and then brought into normal form. -/
theorem ofState_iff_listed {state : Value} (keyless : ∀ entries, state ≠ .object entries)
    {attributes : ContactAttributes} :
    ofState state = .ok attributes ↔
      ∃ written, Listed written state ∧ written.normalized = attributes := by
  simp only [ofState_eq_ok_iff, decode_iff_listed keyless]

end ContactAttributes

/-! ### Rejecting runs -/

namespace Run

variable {τ : Type} {before : τ}

/-- A run ends because of the request itself, before anything has happened. -/
def Rejects (operation : Run τ ProviderError α) (before : τ) : Prop :=
  ∃ message, operation.run before = (.error (.invalidRequest message), before)

/-- However a run fails, it is not because of the request itself. -/
def NeverInvalid (operation : Run τ ProviderError α) : Prop :=
  operation.FailsOnly fun error => ¬error.IsInvalidRequest

/-- A run whose failures are not about the request does not reject it. -/
theorem NeverInvalid.not_rejects {operation : Run τ ProviderError α}
    (never : operation.NeverInvalid) : ¬operation.Rejects before := by
  rintro ⟨message, ends⟩
  exact never before _ (congrArg Prod.fst ends) trivial

/-- What is computed first rejects the request, or the rest does. -/
theorem rejects_ofExcept_bind {outcome : Except ProviderError α} {next : α → Run τ ProviderError β}
    (fails : FailsInvalid outcome)
    (rejects : ∀ result, outcome = .ok result → (next result).Rejects before) :
    (ofExcept outcome >>= next).Rejects before := by
  cases outcome with
  | error error =>
      have invalid := fails error rfl
      cases error with
      | invalidRequest message => exact ⟨message, rfl⟩
      | _ => exact absurd invalid id
  | ok result => exact rejects result rfl

end Run

theorem ProviderError.not_isInvalidRequest_ofService (error : ServiceError) :
    ¬(ofService error).IsInvalidRequest := by
  unfold ofService
  split
  · exact id
  · split
    · exact id
    · exact id
    · exact id

namespace ContactProvider

open ContactAttributes

/-! ### Once the states are read -/

section neverInvalid

variable (provider : ContactProvider σ) (contacts : ContactsService σ) (identifier : Identifier)

/-- What a service answers is not about the request itself, late or not. -/
theorem neverInvalid_bounded (operation : Run (Session σ) Failure α) :
    (provider.bounded operation).NeverInvalid := by
  have ends : operation.FailsOnly fun _ => True := fun _ _ _ => trivial
  refine ends.recover ?_
  rintro (error | _) -
  · exact .fail (ProviderError.not_isInvalidRequest_ofService error)
  · exact .fail id

/-- A contact that is not read back does not make the request an invalid one. -/
theorem neverInvalid_readBack : (provider.readBack contacts identifier).NeverInvalid := by
  refine .bind (.bind (provider.neverInvalid_bounded _) fun contact => .pure _) fun state => ?_
  cases state with
  | none => exact .fail id
  | some state => exact .pure state

theorem neverInvalid_alterIf (needed : Prop) [Decidable needed] (request : AlterContact) :
    (provider.alterIf contacts needed request).NeverInvalid := by
  rw [alterIf]
  split
  · exact provider.neverInvalid_bounded _
  · exact .pure ()

variable (prior : Value) (current desired : ContactAttributes)

theorem neverInvalid_settle (renamed : Bool) :
    (provider.settle contacts prior current desired renamed identifier).NeverInvalid := by
  have applies :
      (provider.applyGuarded contacts prior current desired renamed identifier).NeverInvalid := by
    rw [applyGuarded, applyProperties_eq]
    refine .recover (.bind (provider.neverInvalid_alterIf contacts _ _) fun _ =>
      provider.neverInvalid_alterIf contacts _ _) fun error valid => ?_
    cases renamed with
    | false => exact .fail valid
    | true => exact .bind (.log _) fun _ => .fail id
  refine .bind applies fun _ => ?_
  exact .bind (.log _) fun _ => provider.neverInvalid_readBack contacts identifier

/-- Once the states are read, a change does not fail because of the request. -/
theorem neverInvalid_carryOut :
    (provider.carryOut contacts prior identifier current desired).NeverInvalid := by
  rw [carryOut]
  split
  · exact provider.neverInvalid_settle contacts identifier prior current desired false
  · refine .bind (.bind (provider.neverInvalid_bounded _) fun _ => .bind (.log _) fun _ => .pure _) ?_
    exact fun target => provider.neverInvalid_settle contacts target prior current desired true

end neverInvalid

/-! ### Rejected requests -/

/-- Once the planned state is read, a create does not fail because of the request. -/
theorem neverInvalid_create (provider : ContactProvider σ) {planned : Value}
    {desired : ContactAttributes} (desires : ofState planned = .ok desired) :
    (provider.create contactResourceType planned).NeverInvalid := by
  rw [create_eq provider desires]
  refine .bind (failsOnly_reporting _ _ _ (provider.neverInvalid_bounded _)) fun _ => ?_
  exact .bind (.log _) fun _ => provider.neverInvalid_readBack _ _

/-- A create rejects exactly the planned states that cannot be read. -/
theorem rejects_create_iff (provider : ContactProvider σ) {planned : Value} {session : Session σ} :
    (provider.create contactResourceType planned).Rejects session ↔
      ¬∃ desired, ofState planned = .ok desired := by
  constructor
  · rintro rejects ⟨desired, desires⟩
    exact (provider.neverInvalid_create desires).not_rejects rejects
  · intro undecodable
    refine Run.rejects_ofExcept_bind (.ok ()) fun _ _ => ?_
    refine Run.rejects_ofExcept_bind (.ofState planned) fun desired desires => ?_
    exact absurd ⟨desired, desires⟩ undecodable

/-- An update rejects the request if one of its states cannot be read, or no identifier is recorded. -/
theorem rejects_update_iff (provider : ContactProvider σ) {prior planned : Value}
    {session : Session σ} :
    (provider.update contactResourceType prior planned).Rejects session ↔
      ∀ recorded current, stateIdentifier prior = .ok recorded → ofState prior = .ok current →
        ¬∃ desired, ofState planned = .ok desired := by
  constructor
  · rintro rejects recorded current recordedAs currently ⟨desired, desires⟩
    rw [update_eq_carryOut provider recordedAs currently desires] at rejects
    exact (provider.neverInvalid_carryOut _ _ _ _ _).not_rejects rejects
  · intro undecodable
    rw [update_eq]
    refine Run.rejects_ofExcept_bind (.ok ()) fun _ _ => ?_
    refine Run.rejects_ofExcept_bind (.stateIdentifier prior) fun recorded recordedAs => ?_
    refine Run.rejects_ofExcept_bind (.ofState prior) fun current currently => ?_
    refine Run.rejects_ofExcept_bind (.ofState planned) fun desired desires => ?_
    exact absurd ⟨desired, desires⟩ (undecodable recorded current recordedAs currently)

theorem failsInvalid_planStates (prior : Option Value) (proposed : Value) :
    FailsInvalid (planStates prior proposed) := by
  unfold planStates
  split
  · exact .ok _
  · exact .bind (.ofState _) fun current => .ok _
  · exact .bind (.ofState _) fun desired => .ok _
  · refine .bind (.ofState _) fun current => .bind (.ofState _) fun desired => ?_
    by_cases same : (current.diff desired).isEmpty
    · simp only [if_pos same]
      exact .ok _
    · simp only [if_neg same]
      split
      · exact .ok _
      · exact .invalidRequest _

/-- A plan rejects the request exactly if there is no plan for its states. -/
theorem rejects_plan_iff {prior : Option Value} {proposed : Value} {session : Session σ} :
    (plan contactResourceType prior proposed).Rejects session ↔
      ¬∃ result, planStates prior proposed = .ok result := by
  constructor
  · rintro rejects ⟨result, planned⟩
    have never : (plan contactResourceType prior proposed : Run (Session σ) _ _).NeverInvalid := by
      rw [plan, planned]
      change (Session.log _ >>= fun _ => pure result).NeverInvalid
      exact .bind (.log _) fun _ => .pure result
    exact never.not_rejects rejects
  · intro unplanned
    refine Run.rejects_ofExcept_bind (.ok ()) fun _ _ => ?_
    refine Run.rejects_ofExcept_bind (failsInvalid_planStates prior proposed) fun result planned => ?_
    exact absurd ⟨result, planned⟩ unplanned

/-- When a request is rejected nothing has been sent. -/
theorem exchanges_of_rejects {operation : Run (Session (Recorded σ)) ProviderError α}
    {session : Session σ} (rejects : operation.Rejects session.recording) :
    (operation.run session.recording).2.client.exchanges = [] := by
  rcases rejects with ⟨message, ends⟩
  rw [ends]
  rfl

/--
A state that is neither null nor an object is rejected as an invalid request, with nothing sent, unless it
lists the attributes. A state that lists them is planned and created from; with a prior state it is
rejected exactly when that state does not decode, is not recorded under an identifier that an update needs,
or has no keys for a plan to write to.
-/
theorem keyless_state_rejected_iff (provider : ContactProvider σ) (session : Session σ) {state : Value}
    (present : state ≠ .null) (keyless : ∀ entries, state ≠ .object entries) :
    ((plan contactResourceType none state).Rejects session ↔ ¬∃ written, Listed written state) ∧
    (∀ prior, (plan contactResourceType (some prior) state).Rejects session ↔
      ∀ current written, ofState prior = .ok current → Listed written state →
        current ≠ written.normalized ∧ ∀ entries, prior ≠ .object entries) ∧
    ((provider.create contactResourceType state).Rejects session ↔
      ¬∃ written, Listed written state) ∧
    (∀ prior, (provider.update contactResourceType prior state).Rejects session ↔
      ∀ recorded current, stateIdentifier prior = .ok recorded → ofState prior = .ok current →
        ¬∃ written, Listed written state) ∧
    ((¬∃ written, Listed written state) →
      provider.createExchanges contactResourceType state session = [] ∧
        ∀ prior, provider.updateExchanges contactResourceType prior state session = []) := by
  have decodes : (∃ desired, ofState state = .ok desired) ↔ ∃ written, Listed written state := by
    simp only [ofState_iff_listed keyless]
    exact ⟨fun ⟨_, written, listed, _⟩ => ⟨written, listed⟩, fun ⟨_, listed⟩ => ⟨_, _, listed, rfl⟩⟩
  refine ⟨?_, ?_, ?_, ?_, ?_⟩
  · rw [rejects_plan_iff, planStates_none present, exists_planCreate_iff, decodes]
  · intro prior
    rw [rejects_plan_iff, planStates_some present, exists_planUpdate_iff]
    constructor
    · intro unplanned current written currently listed
      have desires := (ofState_iff_listed keyless).2 ⟨written, listed, rfl⟩
      refine ⟨?_, ?_⟩
      · rintro same
        exact unplanned ⟨_, _, currently, desires, .inl same⟩
      · rintro entries object
        exact unplanned ⟨_, _, currently, desires, .inr ⟨entries, object⟩⟩
    · rintro unwritable ⟨current, desired, currently, desires, writable⟩
      rcases (ofState_iff_listed keyless).1 desires with ⟨written, listed, rfl⟩
      rcases unwritable current written currently listed with ⟨differs, noKeys⟩
      rcases writable with same | ⟨entries, object⟩
      · exact differs same
      · exact noKeys entries object
  · rw [rejects_create_iff, decodes]
  · intro prior
    simp only [rejects_update_iff, decodes]
  · intro unlisted
    refine ⟨exchanges_of_rejects ?_, fun prior => exchanges_of_rejects ?_⟩
    · exact provider.recording.rejects_create_iff.2 (decodes.not.2 unlisted)
    · exact provider.recording.rejects_update_iff.2 fun _ _ _ _ => decodes.not.2 unlisted

/-- An array with a comment that is no text. -/
def misfilledList : Value :=
  .array [.string "OPS", .string "ops@example.com", .boolean true]

theorem keyless_state_rejected_iff_misfilled :
    (plan contactResourceType none misfilledList).Rejects (answering []) ∧
      (plan contactResourceType (some opsState) misfilledList).Rejects (answering []) ∧
      (scripted.create contactResourceType misfilledList).Rejects (answering []) ∧
      (scripted.update contactResourceType opsState misfilledList).Rejects (answering []) ∧
      scripted.createExchanges contactResourceType misfilledList (answering []) = [] := by
  have unlisted : ¬∃ written, Listed written misfilledList := by
    rintro ⟨⟨name, email, _ | comment⟩, listed⟩
    · cases listed
    · cases listed
  have present : misfilledList ≠ .null := by rintro ⟨⟩
  have keyless : ∀ entries, misfilledList ≠ .object entries := by rintro entries ⟨⟩
  rcases keyless_state_rejected_iff scripted (answering []) present keyless with
    ⟨plansNew, plans, creates, updates, silent⟩
  refine ⟨plansNew.2 unlisted, (plans opsState).2 ?_, creates.2 unlisted, (updates opsState).2 ?_,
    (silent unlisted).1⟩
  · intro current written _ listed
    exact absurd ⟨written, listed⟩ unlisted
  · exact fun _ _ _ _ => unlisted

def listedState : Value :=
  .array [.string "OPS", .string "ops@example.com"]

/-- An array that lists the attributes is planned, and a contact is created from it. -/
theorem listed_state_goes_through :
    listedState ≠ .null ∧ (∀ entries, listedState ≠ .object entries) ∧
      (∃ result, ((plan contactResourceType none listedState).run (answering [.ok ()])).1 =
          .ok result ∧ result.changedPaths = ["name", "email"]) ∧
      (scripted.createExchanges contactResourceType listedState (answering [.ok ()])).map
          Exchange.sql =
        ["CREATE NOTIFICATION CONTACT OPS EMAIL = 'ops@example.com'",
          "SHOW NOTIFICATION CONTACTS LIKE 'OPS'"] :=
  ⟨by rintro ⟨⟩, by rintro entries ⟨⟩, ⟨_, rfl, rfl⟩, rfl⟩

end ContactProvider

end AlertContacts
