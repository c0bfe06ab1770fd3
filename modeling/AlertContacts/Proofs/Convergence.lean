import AlertContacts.Proofs.Identity
import AlertContacts.Proofs.Plan
import AlertContacts.Proofs.Settlement

/-!
# Plans that are carried out

A host plans a proposal and then creates the contact, or updates the contact of a state that a provider
returned before. The planned state is the proposal in normal form. Beside it a plan knows the identifier
of a contact that keeps its name; anything else is null until the contact is read back.

When the row that is read back shows what was proposed, the state that comes of the plan has nothing left
to change, and everything that the plan knew of it was right (`apply_converges`). Names in quotes and
without, and comments that are null, empty or missing, are the same to a plan, so that no difference
between the two ways of writing is planned for ever.
-/

namespace AlertContacts

open Json

variable {σ τ : Type}

/-! ### Rows that show properties -/

/--
A row shows the properties of a contact. No comment may be shown as null, as an empty text, or by no
column at all.
-/
structure Row.Carries (row : Row) (stored : Stored) : Prop where
  email : row.find? "email" = some (.string stored.email)
  comment : ((row.find? "comment").bind Value.text?).getD "" = stored.comment

/-- A contact that is read from a row that shows some properties has these properties. -/
theorem Contact.attributes_ofRow {row : Row} {shown : ShowRow} {attributes : ContactAttributes}
    (decodes : ShowRow.decode (.object row) = .ok shown) (carries : row.Carries attributes.stored)
    (named : shown.name = attributes.name) (nonempty : attributes.comment ≠ some "") :
    (Contact.ofRow shown).attributes = attributes := by
  have found := ShowRow.foundIn_of_decode decodes
  have email := found.email
  rw [carries.email, Option.some.injEq, Value.string.injEq] at email
  have shows := carries.comment
  rw [found.text?_comment] at shows
  apply ContactAttributes.eq_of_fields
  · exact named
  · exact email.symm
  · rw [Contact.attributes, Contact.ofRow]
    simp only [shows, ContactAttributes.stored]
    cases written : attributes.comment with
    | none => rfl
    | some text =>
        rw [written] at nonempty
        simpa using nonempty

namespace ContactProvider

/-! ### States that were provided -/

/-- A state that an operation returned, or that came with the failure of an update of such a state. -/
inductive Provided : Value → Prop where
  | returned {σ : Type} {provider : ContactProvider σ} {identifier : Identifier} {state : Value}
      (returns : provider.Returns identifier state) : Provided state
  | carried {σ : Type} {provider : ContactProvider σ} {resourceType : String}
      {prior planned state : Value} {cause : ProviderError} {session : Session σ}
      (earlier : Provided prior)
      (ends : ((provider.update resourceType prior planned).run session).1 =
        .error (.partialUpdate state cause)) : Provided state

/-- A state that was provided records a contact with a name, and without an empty comment. -/
theorem exists_recordedIn_of_provided {state : Value} (provided : Provided state) :
    ∃ attributes : ContactAttributes, attributes.RecordedIn state ∧ attributes.name ≠ "" ∧
      attributes.comment ≠ some "" := by
  induction provided with
  | returned returns =>
      rcases exists_of_returns returns with ⟨contact, rfl, same, named⟩
      refine ⟨contact.attributes, recordedIn_contactState contact, ?_, contact.comment_attributes_ne⟩
      change contact.name ≠ ""
      rwa [same]
  | carried earlier ends ih =>
      -- Only the name is replaced, so there is still no empty comment.
      rcases ih with ⟨attributes, recorded, -, nonempty⟩
      rcases exists_of_partialUpdate ends with ⟨written, desired, decodes, -, named, moved⟩
      cases recorded.decodes.symm.trans decodes
      exact ⟨_, moved, named, nonempty⟩

/-- A state that was provided is recorded in normal form, if its two views of the contact agree. -/
theorem recordedIn_of_provided {former : Value} {current : ContactAttributes}
    (provided : Provided former) (currently : ContactAttributes.ofState former = .ok current)
    (recordedAs : stateIdentifier former = .ok current.identifier) :
    current.RecordedIn former := by
  rcases exists_recordedIn_of_provided provided with ⟨attributes, recorded, named, nonempty⟩
  have same : attributes.normalized = current := by
    simpa using recorded.ofState.symm.trans currently
  have name : attributes.name = current.name := by
    have identifiers := (recorded.stateIdentifier named).symm.trans recordedAs
    simpa [ContactAttributes.identifier] using identifiers
  have stable : attributes.normalized = attributes := by
    apply ContactAttributes.normalized_eq_self _ nonempty
    rw [← ContactAttributes.name_normalized, same, name]
  rw [← same, stable]
  exact recorded

/-! ### What a plan foretells -/

/-- The attributes that tell the identifier of a state. -/
def identityAttributes : List String :=
  [idAttribute, fullyQualifiedNameAttribute]

theorem not_mem_keys_of_identity :
    ∀ key ∈ identityAttributes, key ∉ ContactAttributes.keys ∧ showOutputAttribute ≠ key := by
  decide

/-- The attributes whose values a plan tells, as far as it knows them. -/
def plannedAttributes : List String :=
  identityAttributes ++ ContactAttributes.keys

/-- What a plan knows of a state that comes of it is so. -/
def Foretells (planned state : Value) : Prop :=
  ∀ key ∈ plannedAttributes, ∀ value, planned.get? key = some value → value ≠ .null →
    state.get? key = some value

/-- A recorded state tells the SQL form of the name under both attributes of the identifier. -/
theorem get?_of_recordedIn {attributes : ContactAttributes} {state : Value}
    (recorded : attributes.RecordedIn state) :
    ∀ key ∈ identityAttributes, state.get? key = some (.string attributes.identifier.sql) := by
  intro key member
  simp only [identityAttributes, List.mem_cons, List.not_mem_nil, or_false] at member
  rcases member with rfl | rfl
  · exact recorded.id
  · exact recorded.fullyQualifiedName

section plans

variable {prior : Option Value} {proposed state : Value} {first : PlanResult}
  {desired : ContactAttributes}

/--
A planned state that decodes to what a state records foretells it, if what it knows of the
identifier is so.
-/
theorem foretells_of_decode {planned : Value}
    (decodes : ContactAttributes.decode planned = .ok desired) (recorded : desired.RecordedIn state)
    (identified : ∀ key ∈ identityAttributes, ∀ value,
      planned.get? key = some value → value ≠ .null → value = .string desired.identifier.sql) :
    Foretells planned state := by
  intro key member value written known
  cases planned with
  | object entries =>
      have found := (ContactAttributes.decode_object_iff.1 decodes).2
      rcases recorded.foundIn with ⟨others, rfl, foundAgain⟩
      rcases List.mem_append.1 member with identity | other
      · rw [identified key identity value written known]
        exact get?_of_recordedIn recorded key identity
      simp only [ContactAttributes.keys, List.mem_cons, List.not_mem_nil, or_false] at other
      rcases other with rfl | rfl | rfl
      · exact foundAgain.name.trans (found.name.symm.trans written)
      · exact foundAgain.email.trans (found.email.symm.trans written)
      · exact (foundAgain.find?_comment_iff.2 (found.find?_comment_iff.1 ⟨written, known⟩)).1
  | _ => cases written

/-- The identifier of a contact is not known before the contact is created. -/
theorem get?_plannedState_of_planCreate (plans : planCreate proposed = .ok first) {key : String}
    (member : key ∈ identityAttributes) : first.plannedState.get? key = some .null := by
  rcases not_mem_keys_of_identity key member with ⟨other, -⟩
  rcases bind_eq_ok_iff.1 plans with ⟨_, -, made⟩
  cases made
  rw [Value.get?, ContactAttributes.find?_writeInto_of_not_mem other]
  simp only [identityAttributes, List.mem_cons, List.not_mem_nil, or_false] at member
  rcases member with rfl | rfl
  · rfl
  · rfl

/-- An update keeps the identifier with the name, and otherwise it is not known before the update. -/
theorem get?_plannedState_of_planUpdate {former : Value} {current : ContactAttributes}
    (plans : planUpdate former proposed = .ok first)
    (currently : ContactAttributes.ofState former = .ok current)
    (proposes : ContactAttributes.ofState proposed = .ok desired) {key : String}
    (member : key ∈ identityAttributes) :
    first.plannedState.get? key =
      if current.name = desired.name then former.get? key else some .null := by
  rcases not_mem_keys_of_identity key member with ⟨other, notShown⟩
  rcases planUpdate_cases plans with ⟨_, _, currentlyAgain, proposesAgain, outcome⟩
  cases currently.symm.trans currentlyAgain
  cases proposes.symm.trans proposesAgain
  rcases outcome with ⟨rfl, rfl⟩ | ⟨-, entries, rfl, rfl⟩
  · rw [if_pos rfl, PlanResult.noChange]
  · have revises := revises_revisedEntries current desired entries
    split
    next same => exact revises.kept key other (Ne.symm notShown) (absurd same)
    next renames =>
      simp only [identityAttributes, List.mem_cons, List.not_mem_nil, or_false] at member
      rcases member with rfl | rfl
      · exact (revises.unidentified renames).1
      · exact (revises.unidentified renames).2

/-- What a plan knows of the identifier is the former one, of a contact that keeps its name. -/
theorem former_of_planStates (keeps : proposed ≠ .null)
    (plans : planStates prior proposed = .ok first)
    (proposes : ContactAttributes.ofState proposed = .ok desired) {key : String} {value : Value}
    (member : key ∈ identityAttributes) (written : first.plannedState.get? key = some value)
    (known : value ≠ .null) :
    ∃ former current, prior = some former ∧ ContactAttributes.ofState former = .ok current ∧
      current.name = desired.name ∧ former.get? key = some value := by
  cases prior with
  | none =>
      rw [planStates_none keeps] at plans
      rw [get?_plannedState_of_planCreate plans member] at written
      cases written
      exact absurd rfl known
  | some former =>
      rw [planStates_some keeps] at plans
      rcases planUpdate_eq_ok plans with ⟨current, _, currently, -⟩
      rw [get?_plannedState_of_planUpdate plans currently proposes member] at written
      split at written
      · rename_i same
        exact ⟨former, current, rfl, currently, same, written⟩
      · cases written
        exact absurd rfl known

/-- The prior state of a plan, if there is one, was provided, and its two views of the contact agree. -/
def IsPrior (prior : Option Value) : Prop :=
  ∀ former ∈ prior, Provided former ∧ ∃ current, ContactAttributes.ofState former = .ok current ∧
    stateIdentifier former = .ok current.identifier

/-- A planned state decodes to the proposal in normal form. -/
theorem decode_plannedState (isPrior : IsPrior prior) (keeps : proposed ≠ .null)
    (plans : planStates prior proposed = .ok first)
    (proposes : ContactAttributes.ofState proposed = .ok desired) :
    ContactAttributes.decode first.plannedState = .ok desired := by
  cases prior with
  | none =>
      rw [planStates_none keeps] at plans
      rcases planCreate_eq_ok plans with ⟨_, proposesAgain, decodes, -⟩
      cases proposes.symm.trans proposesAgain
      exact decodes
  | some former =>
      rw [planStates_some keeps] at plans
      rcases planUpdate_eq_ok plans with ⟨current, _, currently, proposesAgain, outcome⟩
      cases proposes.symm.trans proposesAgain
      rcases outcome with ⟨rfl, rfl⟩ | ⟨-, decodes, -⟩
      · rcases isPrior former rfl with ⟨provided, _, currentlyAgain, recordedAs⟩
        cases currently.symm.trans currentlyAgain
        exact (recordedIn_of_provided provided currently recordedAs).decodes
      · exact decodes

/-- A plan foretells every state in which what it plans for is recorded. -/
theorem foretells_of_planStates (isPrior : IsPrior prior) (keeps : proposed ≠ .null)
    (plans : planStates prior proposed = .ok first)
    (proposes : ContactAttributes.ofState proposed = .ok desired)
    (recorded : desired.RecordedIn state) : Foretells first.plannedState state := by
  apply foretells_of_decode (decode_plannedState isPrior keeps plans proposes) recorded
  intro key member value written known
  rcases former_of_planStates keeps plans proposes member written known with
    ⟨former, current, rfl, currently, same, found⟩
  rcases isPrior former rfl with ⟨provided, _, currentlyAgain, recordedAs⟩
  cases currently.symm.trans currentlyAgain
  have kept := get?_of_recordedIn (recordedIn_of_provided provided currently recordedAs) key member
  rw [found, Option.some.injEq] at kept
  rw [kept, ContactAttributes.identifier, same]
  rfl

end plans

/-! ### Plans that are carried out -/

/-- What a host does with a planned state: it creates a contact, or updates the one of the prior state. -/
def apply (provider : ContactProvider σ) (resourceType : String) :
    Option Value → Value → Run (Session σ) ProviderError Value
  | none => provider.create resourceType
  | some prior => provider.update resourceType prior

section apply

variable {provider : ContactProvider σ} {resourceType : String} {prior : Option Value}
  {proposed planned state : Value} {desired : ContactAttributes} {session : Session σ}

/-- A state that comes of carrying out a plan is that of a contact of the planned name. -/
theorem exists_of_apply (isPrior : IsPrior prior)
    (desires : ContactAttributes.ofState planned = .ok desired)
    (ends : ((provider.apply resourceType prior planned).run session).1 = .ok state) :
    ∃ contact, contactState contact = state ∧ contact.name = desired.name := by
  cases prior with
  | none =>
      rcases exists_of_returns (.created desires ends) with ⟨contact, made, named, -⟩
      exact ⟨contact, made, named⟩
  | some former =>
      rcases isPrior former rfl with ⟨-, current, currently, recordedAs⟩
      rcases exists_of_returns (.updated recordedAs currently desires ends) with
        ⟨contact, made, named, -⟩
      rw [settledIdentifier_identifier] at named
      exact ⟨contact, made, named⟩

/-- A proposal that a state is in already plans no change, and the state as it is. -/
theorem plan_of_settled (keeps : proposed ≠ .null)
    (proposes : ContactAttributes.ofState proposed = .ok desired)
    (currently : ContactAttributes.ofState state = .ok desired) (session : Session σ) :
    ((plan contactResourceType (some state) proposed).run session).1 =
      .ok { plannedState := state, changes := [], requiresReplace := false } := by
  have plans : planStates (some state) proposed =
      .ok { plannedState := state, changes := [], requiresReplace := false } := by
    rw [planStates_some keeps, planUpdate, currently, proposes]
    have settled : desired.diff desired = [] := ContactAttributes.diff_eq_nil_iff.2 rfl
    simp [bind, Except.bind, pure, Except.pure, settled, PlanResult.noChange]
  rw [plan, plans]
  rfl

/--
A plan that is carried out settles the contact, if the row that is read back shows the proposed
properties: the same proposal plans the state that was returned, with no changes, and what the first plan
knew of the state is so.
-/
theorem apply_converges {planning : Session τ} {first : PlanResult} {row : Row} {shown : ShowRow}
    (keeps : proposed ≠ .null) (proposes : ContactAttributes.ofState proposed = .ok desired)
    (stable : ContactAttributes.normalName desired.name = desired.name) (isPrior : IsPrior prior)
    (plans : ((plan contactResourceType prior proposed).run planning).1 = .ok first)
    (ends : ((provider.apply contactResourceType prior first.plannedState).run session).1 =
      .ok state)
    (decodes : ShowRow.decode (.object row) = .ok shown)
    (made : contactState (Contact.ofRow shown) = state) (carries : row.Carries desired.stored) :
    (∀ {ρ : Type} (again : Session ρ),
        ((plan contactResourceType (some state) proposed).run again).1 =
          .ok { plannedState := state, changes := [], requiresReplace := false }) ∧
      Foretells first.plannedState state := by
  have nonempty := ContactAttributes.comment_ne_of_ofState proposes
  have normal := ContactAttributes.normalized_eq_self stable nonempty
  have planned := plan_eq_ok plans
  have desires : ContactAttributes.ofState first.plannedState = .ok desired :=
    ContactAttributes.ofState_eq_ok_iff.2
      ⟨desired, decode_plannedState isPrior keeps planned proposes, normal⟩
  rcases exists_of_apply isPrior desires ends with ⟨contact, same, named⟩
  have recorded : desired.RecordedIn state := by
    -- The row has the proposed name, since the state that comes of it has.
    have shownNamed : shown.name = desired.name := by
      have name := (get?_contactState contact).1
      rw [same, ← made, (get?_contactState _).1, Option.some.injEq, Value.string.injEq, named] at name
      exact name
    rw [← made, ← Contact.attributes_ofRow decodes carries shownNamed nonempty]
    exact recordedIn_contactState _
  refine ⟨?_, foretells_of_planStates isPrior keeps planned proposes recorded⟩
  intro ρ again
  apply plan_of_settled keeps proposes
  rw [recorded.ofState, normal]

/-- The state of the contact `OPS` with an address and no comment. -/
def opsAt (email : String) : Value :=
  contactState { ContactAttributes.contactNamed "OPS" with email := email }

def opsPlan : PlanResult where
  plannedState := .object
    [("comment", .null), ("email", .string "oncall@example.com"),
      ("fully_qualified_name", .string "OPS"), ("id", .string "OPS"), ("name", .string "OPS"),
      ("show_output", .null)]
  changes := [.modified "email" (.string "ops@example.com") (.string "oncall@example.com")]
  requiresReplace := false

def opsProposal : Value :=
  .object [("comment", .string ""), ("email", .string "oncall@example.com"),
    ("name", .string "\"OPS\"")]

def showingOps (email : String) : Session Script :=
  ⟨{ queryAnswers := [.ok [Script.showRow "OPS" email none]] }, []⟩

theorem apply_converges_quoted_name :
    ((plan contactResourceType (some (opsAt "ops@example.com")) opsProposal).run
        (⟨(), []⟩ : Session Unit)).1 = .ok opsPlan ∧
      ((scripted.apply contactResourceType (some (opsAt "ops@example.com"))
        opsPlan.plannedState).run (showingOps "oncall@example.com")).1 =
          .ok (opsAt "oncall@example.com") ∧
      ((plan contactResourceType (some (opsAt "oncall@example.com")) opsProposal).run
        (⟨(), []⟩ : Session Unit)).1 =
          .ok { plannedState := opsAt "oncall@example.com", changes := [], requiresReplace := false } ∧
      Foretells opsPlan.plannedState (opsAt "oncall@example.com") := by
  have recordedAs : stateIdentifier (opsAt "ops@example.com") = .ok ⟨"OPS"⟩ := rfl
  have currently : ContactAttributes.ofState (opsAt "ops@example.com") =
      .ok ⟨"OPS", "ops@example.com", none⟩ := rfl
  have reads : ((scripted.read contactResourceType (opsAt "ops@example.com")).run
      (showingOps "ops@example.com")).1 = .ok (opsAt "ops@example.com") := rfl
  have isPrior : IsPrior (some (opsAt "ops@example.com")) := by
    rintro _ ⟨rfl⟩
    have present := (recordedIn_contactState { ContactAttributes.contactNamed "OPS" with
      email := "ops@example.com" }).ne_null
    exact ⟨.returned (.read recordedAs reads present), _, currently, recordedAs⟩
  have proposes : ContactAttributes.ofState opsProposal =
      .ok ⟨"OPS", "oncall@example.com", none⟩ := rfl
  have plans : ((plan contactResourceType (some (opsAt "ops@example.com")) opsProposal).run
      (⟨(), []⟩ : Session Unit)).1 = .ok opsPlan := rfl
  have ends : ((scripted.apply contactResourceType (some (opsAt "ops@example.com"))
      opsPlan.plannedState).run (showingOps "oncall@example.com")).1 =
        .ok (opsAt "oncall@example.com") := rfl
  have decodes : ShowRow.decode (.object (Script.showRow "OPS" "oncall@example.com" none)) =
      .ok _ := rfl
  have carries : Row.Carries (Script.showRow "OPS" "oncall@example.com" none)
      ⟨"oncall@example.com", ""⟩ := ⟨rfl, rfl⟩
  rcases apply_converges (by rintro ⟨⟩) proposes rfl isPrior plans ends decodes rfl carries with
    ⟨again, foretold⟩
  exact ⟨plans, ends, again _, foretold⟩

end apply

end ContactProvider

end AlertContacts
