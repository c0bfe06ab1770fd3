import AlertContacts.Proofs.Attributes
import AlertContacts.Provider.Contact
import Mathlib.Tactic.SplitIfs

/-!
# What a plan announces

One description covers the changes of all plans (`ContactAttributes.changesBetween`): of the attributes in
their order, those whose texts differ are changed, each from what it was to what it will be. An attribute
without a text is null where the contact is there, and absent where it is not.

A plan for a state that stays decodes the proposed state, and writes the attributes in normal form
into the planned state; only a plan without changes gives the prior state back. Decoding the planned
state then reads the name once more. It is the proposed name again exactly when the plan changes
nothing or the name is one that reading does not change (`plan_realizes_proposal_iff`): a name that
is itself a quoted name, such as the one that `"""A"""` writes, is announced and then lost.
-/

namespace AlertContacts

open Json

namespace ContactAttributes

/-! ### Changes -/

theorem changeUnless_eq_nil_iff {agree : Bool} {path : String} {before after : Value} :
    changeUnless agree path before after = [] ↔ agree = true := by
  cases agree <;> simp [changeUnless]

/-- Nothing differs between attributes only if they are the same. -/
theorem diff_eq_nil_iff {current desired : ContactAttributes} :
    current.diff desired = [] ↔ current = desired := by
  rcases current with ⟨name, email, comment⟩
  rcases desired with ⟨desiredName, desiredEmail, desiredComment⟩
  simp only [diff, List.append_eq_nil_iff, changeUnless_eq_nil_iff, decide_eq_true_eq, mk.injEq,
    and_assoc]

def valueAt? (attributes : ContactAttributes) (path : String) : Option Value :=
  Entries.find? path (attributes.writeInto [])

theorem valueAt?_name (attributes : ContactAttributes) :
    attributes.valueAt? "name" = some (.string attributes.name) := by
  simp [valueAt?, writeInto, Entries.find?_insert]

theorem valueAt?_email (attributes : ContactAttributes) :
    attributes.valueAt? "email" = some (.string attributes.email) := by
  simp [valueAt?, writeInto, Entries.find?_insert]

theorem valueAt?_comment (attributes : ContactAttributes) :
    attributes.valueAt? "comment" = some attributes.commentValue := by
  simp [valueAt?, writeInto, Entries.find?_insert]

/-- The value of an attribute of a contact that may be missing. -/
def valueOf (attributes : Option ContactAttributes) (path : String) : Option Value :=
  attributes.bind (·.valueAt? path)

/-- The text of an attribute, if the contact is there and the attribute has a value. -/
def textOf (attributes : Option ContactAttributes) (path : String) : Option String :=
  (valueOf attributes path).bind Value.text?

/-- The changes that lead from one contact to another, where either may be missing. -/
def changesBetween (current desired : Option ContactAttributes) : List AttributeChange :=
  (keys.filter fun path => textOf current path ≠ textOf desired path).map fun path =>
    ⟨path, valueOf current path, valueOf desired path⟩

section textOf

variable (attributes : ContactAttributes)

@[simp]
theorem textOf_none (path : String) : textOf none path = none := rfl

@[simp]
theorem textOf_name : textOf (some attributes) "name" = some attributes.name := by
  simp [textOf, valueOf, valueAt?_name, Value.text?]

@[simp]
theorem textOf_email : textOf (some attributes) "email" = some attributes.email := by
  simp [textOf, valueOf, valueAt?_email, Value.text?]

@[simp]
theorem textOf_comment : textOf (some attributes) "comment" = attributes.comment := by
  rw [textOf, valueOf, Option.bind_some, valueAt?_comment, commentValue]
  cases attributes.comment with
  | none => rfl
  | some comment => rfl

end textOf

section plans

variable (current desired : ContactAttributes)

theorem changesBy_added : desired.changesBy .added = changesBetween none (some desired) := by
  cases commented : desired.comment with
  | none =>
      simp [changesBy, changesBetween, keys, commented, AttributeChange.added, valueOf,
        valueAt?_name, valueAt?_email]
  | some comment =>
      simp [changesBy, changesBetween, keys, commented, AttributeChange.added, valueOf,
        valueAt?_name, valueAt?_email, valueAt?_comment]

theorem changesBy_removed : current.changesBy .removed = changesBetween (some current) none := by
  cases commented : current.comment with
  | none =>
      simp [changesBy, changesBetween, keys, commented, AttributeChange.removed, valueOf,
        valueAt?_name, valueAt?_email]
  | some comment =>
      simp [changesBy, changesBetween, keys, commented, AttributeChange.removed, valueOf,
        valueAt?_name, valueAt?_email, valueAt?_comment]

/-- The changes of an update are those from the one contact to the other. -/
theorem diff_eq_changesBetween :
    current.diff desired = changesBetween (some current) (some desired) := by
  simp only [diff, changeUnless, changesBetween, keys, List.filter_cons, List.filter_nil, textOf_name,
    textOf_email, textOf_comment, Option.some.injEq, decide_not, Bool.not_eq_true',
    decide_eq_false_iff_not, decide_eq_true_eq, AttributeChange.modified]
  split_ifs <;> simp [valueOf, valueAt?_name, valueAt?_email, valueAt?_comment]

end plans

/-- What changes are the attributes whose texts differ, each from what it was to what it will be. -/
theorem mem_changesBetween_iff {current desired : Option ContactAttributes}
    {change : AttributeChange} :
    change ∈ changesBetween current desired ↔
      change.path ∈ keys ∧ textOf current change.path ≠ textOf desired change.path ∧
        change.before = valueOf current change.path ∧ change.after = valueOf desired change.path := by
  rcases change with ⟨path, before, after⟩
  simp only [changesBetween, List.mem_map, List.mem_filter, decide_eq_true_eq, AttributeChange.mk.injEq]
  constructor
  · rintro ⟨_, ⟨member, differs⟩, rfl, rfl, rfl⟩
    exact ⟨member, differs, rfl, rfl⟩
  · rintro ⟨member, differs, rfl, rfl⟩
    exact ⟨path, ⟨member, differs⟩, rfl, rfl, rfl⟩

end ContactAttributes

namespace ContactProvider

open ContactAttributes

variable {σ : Type}

/-! ### Planned states -/

/-- A plan for a new contact writes the proposed attributes, and announces each of them as added. -/
theorem planCreate_eq_ok {proposed : Value} {result : PlanResult}
    (plans : planCreate proposed = .ok result) :
    ∃ desired, ofState proposed = .ok desired ∧ decode result.plannedState = .ok desired ∧
      result.changes = desired.changesBy .added := by
  rw [planCreate] at plans
  rcases bind_eq_ok_iff.1 plans with ⟨desired, proposes, made⟩
  cases made
  exact ⟨desired, proposes, decode_writeInto rfl desired, rfl⟩

/-- A proposal that decodes is planned, and the planned state decodes to its normal form. -/
theorem exists_planCreate {proposed : Value} {attributes : ContactAttributes}
    (decodes : decode proposed = .ok attributes) :
    ∃ result, planCreate proposed = .ok result ∧
      decode result.plannedState = .ok attributes.normalized := by
  have desires := ofState_eq_ok_iff.2 ⟨attributes, decodes, rfl⟩
  refine ⟨_, by rw [planCreate, desires]; rfl, ?_⟩
  exact decode_writeInto rfl attributes.normalized

/-- There is a plan for a new contact exactly if the proposal can be read. -/
theorem exists_planCreate_iff {proposed : Value} :
    (∃ result, planCreate proposed = .ok result) ↔ ∃ desired, ofState proposed = .ok desired := by
  constructor
  · rintro ⟨result, plans⟩
    rcases planCreate_eq_ok plans with ⟨desired, desires, -, -⟩
    exact ⟨desired, desires⟩
  · rintro ⟨desired, desires⟩
    rcases ofState_eq_ok_iff.1 desires with ⟨written, decodes, -⟩
    rcases exists_planCreate decodes with ⟨result, plans, -⟩
    exact ⟨result, plans⟩

/-- A plan to delete announces what the prior state has as removed. -/
theorem planDelete_eq_ok {prior : Value} {result : PlanResult}
    (plans : planDelete prior = .ok result) :
    ∃ current, ofState prior = .ok current ∧ result.changes = current.changesBy .removed := by
  rw [planDelete] at plans
  rcases bind_eq_ok_iff.1 plans with ⟨current, decodes, made⟩
  cases made
  exact ⟨current, decodes, rfl⟩

/-- The entries of a state in which a plan changes a contact. -/
def revisedEntries (current desired : ContactAttributes) (entries : Entries Value) : Entries Value :=
  let written := (desired.writeInto entries).insert showOutputAttribute .null
  if current.name = desired.name then written
  else (written.insert idAttribute .null).insert fullyQualifiedNameAttribute .null

/-- What becomes of the entries of a state when a plan changes its contact, and maybe renames it. -/
structure Revises (renames : Prop) (entries planned : Entries Value) : Prop where
  kept : ∀ key, key ∉ keys → key ≠ showOutputAttribute →
    (renames → key ≠ idAttribute ∧ key ≠ fullyQualifiedNameAttribute) →
      planned.find? key = entries.find? key
  unidentified : renames →
    planned.find? idAttribute = some .null ∧ planned.find? fullyQualifiedNameAttribute = some .null
  unshown : planned.find? showOutputAttribute = some .null

/-- A changed state keeps all entries but the attributes, the last row, and what depends on a new name. -/
theorem revises_revisedEntries (current desired : ContactAttributes) (entries : Entries Value) :
    Revises (current.name ≠ desired.name) entries (revisedEntries current desired entries) := by
  have written (key : String) (other : key ∉ keys) (unshown : key ≠ showOutputAttribute) :
      ((desired.writeInto entries).insert showOutputAttribute .null).find? key =
        entries.find? key := by
    rw [Entries.find?_insert, if_neg (Ne.symm unshown), find?_writeInto_of_not_mem other]
  rw [revisedEntries]
  split
  next same =>
    refine ⟨fun key other unshown _ => written key other unshown, absurd same, ?_⟩
    rw [Entries.find?_insert, if_pos rfl]
  next renames =>
    refine ⟨?_, fun _ => ⟨?_, ?_⟩, ?_⟩
    · intro key other unshown identity
      rcases identity renames with ⟨notId, notName⟩
      rw [Entries.find?_insert, if_neg (Ne.symm notName), Entries.find?_insert,
        if_neg (Ne.symm notId), written key other unshown]
    · rw [Entries.find?_insert, if_neg (by decide), Entries.find?_insert, if_pos rfl]
    · rw [Entries.find?_insert, if_pos rfl]
    · rw [Entries.find?_insert, if_neg (by decide), Entries.find?_insert, if_neg (by decide),
        Entries.find?_insert, if_pos rfl]

/-- An update keeps the prior state, or changes a contact in a state that is an object. -/
theorem planUpdate_cases {prior proposed : Value} {result : PlanResult}
    (plans : planUpdate prior proposed = .ok result) :
    ∃ current desired, ofState prior = .ok current ∧ ofState proposed = .ok desired ∧
      (current = desired ∧ result = .noChange prior ∨
        current ≠ desired ∧ ∃ entries, prior = .object entries ∧
          result = ⟨.object (revisedEntries current desired entries), current.diff desired,
            requiresReplacement contactSchema (current.diff desired)⟩) := by
  rw [planUpdate] at plans
  rcases bind_eq_ok_iff.1 plans with ⟨current, decodesPrior, rest⟩
  rcases bind_eq_ok_iff.1 rest with ⟨desired, proposes, made⟩
  refine ⟨current, desired, decodesPrior, proposes, ?_⟩
  simp only [List.isEmpty_iff, diff_eq_nil_iff] at made
  by_cases same : current = desired
  · rw [if_pos same] at made
    cases made
    exact .inl ⟨same, rfl⟩
  · rw [if_neg same] at made
    cases prior with
    | object entries =>
        cases made
        exact .inr ⟨same, entries, rfl, rfl⟩
    | _ => cases made

/-- A changed state decodes to the desired attributes, whatever else it holds. -/
theorem decode_revisedEntries {entries : Entries Value}
    (visited : Json.Record.visit record.fields false entries = .ok ())
    (current desired : ContactAttributes) :
    decode (.object (revisedEntries current desired entries)) = .ok desired := by
  -- Besides the attributes, a plan only puts null under keys that name no attribute.
  have other : showOutputAttribute ∉ keys := by decide
  have kept := decode_insert_other (decode_writeInto visited desired) other .null
  rw [revisedEntries]
  split
  · exact kept
  · apply decode_insert_other _ (by decide)
    exact decode_insert_other kept (by decide) _

/--
A plan to update keeps a state that is as proposed; otherwise the planned state decodes to the
proposal, and the changes are the differences.
-/
theorem planUpdate_eq_ok {prior proposed : Value} {result : PlanResult}
    (plans : planUpdate prior proposed = .ok result) :
    ∃ current desired, ofState prior = .ok current ∧ ofState proposed = .ok desired ∧
      (current = desired ∧ result = .noChange prior ∨
        current ≠ desired ∧ decode result.plannedState = .ok desired ∧
          result.changes = current.diff desired) := by
  rcases planUpdate_cases plans with ⟨current, desired, decodesPrior, proposes, outcome⟩
  refine ⟨current, desired, decodesPrior, proposes, outcome.imp_right ?_⟩
  rintro ⟨different, entries, rfl, rfl⟩
  rcases ofState_eq_ok_iff.1 decodesPrior with ⟨written, found, -⟩
  exact ⟨different, decode_revisedEntries (decode_object_iff.1 found).1 current desired, rfl⟩

/--
There is a plan to update exactly if both states can be read and, where they differ, the prior one
is an object.
-/
theorem exists_planUpdate_iff {prior proposed : Value} :
    (∃ result, planUpdate prior proposed = .ok result) ↔
      ∃ current desired, ofState prior = .ok current ∧ ofState proposed = .ok desired ∧
        (current = desired ∨ ∃ entries, prior = .object entries) := by
  constructor
  · rintro ⟨result, plans⟩
    rcases planUpdate_cases plans with ⟨current, desired, currently, desires, outcome⟩
    refine ⟨current, desired, currently, desires, outcome.imp And.left ?_⟩
    rintro ⟨-, entries, object, -⟩
    exact ⟨entries, object⟩
  · rintro ⟨current, desired, currently, desires, writable⟩
    rw [planUpdate, currently, desires]
    rcases writable with rfl | ⟨entries, rfl⟩
    · have same : (current.diff current).isEmpty = true := List.isEmpty_iff.2 (diff_eq_nil_iff.2 rfl)
      exact ⟨_, if_pos same⟩
    · by_cases same : (current.diff desired).isEmpty = true
      · exact ⟨_, if_pos same⟩
      · exact ⟨_, if_neg same⟩

section planStates

variable {proposed : Value} (keeps : proposed ≠ .null)

include keeps

theorem planStates_none : planStates none proposed = planCreate proposed := by
  rw [planStates]
  exact keeps

theorem planStates_some (former : Value) :
    planStates (some former) proposed = planUpdate former proposed := by
  rw [planStates]
  exact keeps

end planStates

/-- The changes of a plan, by whether there is a prior state and whether a state is proposed. -/
inductive PlansChanges : Option Value → Value → List AttributeChange → Prop where
  | nothing : PlansChanges none .null []
  | added {proposed : Value} {desired : ContactAttributes} (keeps : proposed ≠ .null)
      (desires : ofState proposed = .ok desired) :
      PlansChanges none proposed (desired.changesBy .added)
  | removed {prior : Value} {current : ContactAttributes} (currently : ofState prior = .ok current) :
      PlansChanges (some prior) .null (current.changesBy .removed)
  | modified {prior proposed : Value} {current desired : ContactAttributes}
      (keeps : proposed ≠ .null) (currently : ofState prior = .ok current)
      (desires : ofState proposed = .ok desired) :
      PlansChanges (some prior) proposed (current.diff desired)

/-- A plan announces the changes of its kind: of a new contact, a changed one or one that goes away. -/
theorem plansChanges_of_planStates {prior : Option Value} {proposed : Value} {result : PlanResult}
    (plans : planStates prior proposed = .ok result) :
    PlansChanges prior proposed result.changes := by
  by_cases keeps : proposed = .null
  · subst keeps
    cases prior with
    | none =>
        cases plans
        exact .nothing
    | some former =>
        rcases planDelete_eq_ok plans with ⟨current, currently, changes⟩
        rw [changes]
        exact .removed currently
  · cases prior with
    | none =>
        rw [planStates_none keeps] at plans
        rcases planCreate_eq_ok plans with ⟨desired, desires, -, changes⟩
        rw [changes]
        exact .added keeps desires
    | some former =>
        rw [planStates_some keeps] at plans
        rcases planUpdate_eq_ok plans with ⟨current, desired, currently, desires, outcome⟩
        have changes : result.changes = current.diff desired := by
          rcases outcome with ⟨same, rfl⟩ | ⟨-, -, changes⟩
          · exact (diff_eq_nil_iff.2 same).symm
          · exact changes
        rw [changes]
        exact .modified keeps currently desires

/-- A plan keeps the prior state, or writes the attributes that the proposed state decodes to. -/
theorem planStates_eq_ok {prior : Option Value} {proposed : Value} {result : PlanResult}
    (keeps : proposed ≠ .null) (plans : planStates prior proposed = .ok result) :
    ∃ desired, ofState proposed = .ok desired ∧
      (∀ change ∈ result.changes, change.after = desired.valueAt? change.path) ∧
        (result.changes = [] ∧ ofState result.plannedState = .ok desired ∨
          result.changes ≠ [] ∧ decode result.plannedState = .ok desired) := by
  cases prior with
  | none =>
      rw [planStates_none keeps] at plans
      rcases planCreate_eq_ok plans with ⟨desired, proposes, decodes, changes⟩
      refine ⟨desired, proposes, ?_, .inr ⟨?_, decodes⟩⟩
      · intro change member
        rw [changes, changesBy_added] at member
        exact (mem_changesBetween_iff.1 member).2.2.2
      · rw [changes]
        simp [changesBy]
  | some prior =>
      rw [planStates_some keeps] at plans
      rcases planUpdate_eq_ok plans with
        ⟨current, desired, decodesPrior, proposes, ⟨rfl, rfl⟩ | ⟨different, decodes, changes⟩⟩
      · exact ⟨current, proposes, by simp [PlanResult.noChange], .inl ⟨rfl, decodesPrior⟩⟩
      · refine ⟨desired, proposes, ?_, .inr ⟨?_, decodes⟩⟩
        · intro change member
          rw [changes, diff_eq_changesBetween] at member
          exact (mem_changesBetween_iff.1 member).2.2.2
        · rw [changes, ne_eq, diff_eq_nil_iff]
          exact different

/-- A plan that succeeds is the plan of its two states, whatever the session. -/
theorem plan_eq_ok {resourceType : String} {prior : Option Value} {proposed : Value}
    {session : Session σ} {result : PlanResult}
    (plans : ((plan resourceType prior proposed).run session).1 = .ok result) :
    planStates prior proposed = .ok result := by
  rw [plan] at plans
  cases checked : checkResourceType resourceType with
  | error error => simp [checked] at plans
  | ok _ =>
      cases planned : planStates prior proposed with
      | error error => simp [checked, planned] at plans
      | ok other => simpa [checked, planned, Session.log] using plans

/-- Planned states that are read alike are created alike. -/
theorem create_congr (provider : ContactProvider σ) (resourceType : String) {state other : Value}
    (same : ofState state = ofState other) :
    provider.create resourceType state = provider.create resourceType other := by
  rw [create, create, same]

/-- Planned states that are read alike are updated to alike. -/
theorem update_congr (provider : ContactProvider σ) (resourceType : String) (prior : Value)
    {state other : Value} (same : ofState state = ofState other) :
    provider.update resourceType prior state = provider.update resourceType prior other := by
  rw [update, update, same]

/--
The changes of a plan that keeps the contact announce the attributes that the proposed state decodes
to. The planned state decodes to the same address and comment, and to the same name exactly when the
plan changes nothing or the name is one that reading does not change. Where the names agree, the
planned state creates and updates what was proposed.
-/
theorem plan_realizes_proposal_iff {resourceType : String} {prior : Option Value} {proposed : Value}
    {session : Session σ} {result : PlanResult} (keeps : proposed ≠ .null)
    (plans : ((plan resourceType prior proposed).run session).1 = .ok result) :
    ∃ desired planned, ofState proposed = .ok desired ∧ ofState result.plannedState = .ok planned ∧
      (∀ change ∈ result.changes, change.after = desired.valueAt? change.path) ∧
      planned.email = desired.email ∧ planned.comment = desired.comment ∧
      (planned.name = desired.name ↔ result.changes = [] ∨ IsNormalName desired.name) ∧
      (planned.name = desired.name → ∀ provider : ContactProvider σ,
        provider.create resourceType result.plannedState = provider.create resourceType proposed ∧
          ∀ state, provider.update resourceType state result.plannedState =
            provider.update resourceType state proposed) := by
  rcases planStates_eq_ok keeps (plan_eq_ok plans) with ⟨desired, proposes, announces, outcome⟩
  have acts (planned : ContactAttributes) (decodes : ofState result.plannedState = .ok planned)
      (equal : planned = desired) (provider : ContactProvider σ) :
      provider.create resourceType result.plannedState = provider.create resourceType proposed ∧
        ∀ state, provider.update resourceType state result.plannedState =
          provider.update resourceType state proposed := by
    have same : ofState result.plannedState = ofState proposed := by
      rw [decodes, proposes, equal]
    exact ⟨create_congr provider resourceType same,
      fun state => update_congr provider resourceType state same⟩
  rcases outcome with ⟨unchanged, decodes⟩ | ⟨changed, decodes⟩
  · refine ⟨desired, desired, proposes, decodes, announces, rfl, rfl, by simp [unchanged], ?_⟩
    intro _
    exact acts desired decodes rfl
  · rcases ofState_eq_ok_iff.1 proposes with ⟨written, -, rfl⟩
    rcases exists_ofState_of_decode_normalized decodes with ⟨again, readAgain, email, comment, name⟩
    refine ⟨written.normalized, again, proposes, readAgain, announces, email, comment, ?_, ?_⟩
    · -- The planned state holds the normal form, and decoding it reads the name once more.
      rw [name]
      simp [changed]
    · intro sameName
      exact acts again readAgain (eq_of_fields sameName email comment)

def quotedProposal : Value :=
  .object [("email", .string "ops@example.com"), ("name", .string "\"\"\"A\"\"\"")]

theorem plan_realizes_proposal_quoted :
    ∃ result desired planned, quotedProposal ≠ .null ∧
      ((plan contactResourceType none quotedProposal).run (⟨(), []⟩ : Session Unit)).1 =
        .ok result ∧
      ofState quotedProposal = .ok desired ∧ ofState result.plannedState = .ok planned ∧
      planned.email = desired.email ∧ planned.comment = desired.comment ∧
      (planned.name = desired.name ↔ result.changes = [] ∨ IsNormalName desired.name) := by
  have keeps : quotedProposal ≠ .null := by rintro ⟨⟩
  have plans : ((plan contactResourceType none quotedProposal).run
      (⟨(), []⟩ : Session Unit)).1 = .ok _ := rfl
  rcases plan_realizes_proposal_iff keeps plans with
    ⟨desired, planned, proposes, decodes, -, email, comment, name, -⟩
  exact ⟨_, desired, planned, keeps, plans, proposes, decodes, email, comment, name⟩

theorem plan_quotedProposal_loses_quotes :
    ∃ result, ((plan contactResourceType none quotedProposal).run (⟨(), []⟩ : Session Unit)).1 =
        .ok result ∧
      ofState quotedProposal = .ok ⟨"\"A\"", "ops@example.com", none⟩ ∧
      ofState result.plannedState = .ok ⟨"A", "ops@example.com", none⟩ :=
  ⟨_, rfl, rfl, rfl⟩

end ContactProvider

end AlertContacts
