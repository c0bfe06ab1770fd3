import AlertContacts.Proofs.Table
import AlertContacts.Proofs.Wire

/-!
# Changes as a patch

The changes of a plan lead from what the prior state decodes to, to what the proposed state decodes to,
where either may be missing. Applied in their order they turn every object that shows the attributes of
the one side into an object that shows those of the other (`shows_patch`), and each of them changes
something.

An update leaves the rest of the state as it was, but for the last row of `SHOW` and, where the name
changes, the identifier that depends on it (`ContactProvider.plan_is_minimal_patch`).
-/

namespace AlertContacts

open Json

/-! ### Changes applied to entries -/

namespace AttributeChange

/-- The entries with the changed attribute as it is after the change. -/
def applyTo (entries : Entries Value) (change : AttributeChange) : Entries Value :=
  match change.after with
  | some value => entries.insert change.path value
  | none => entries.erase change.path

/-- A change decides what is found under its path, and nothing else. -/
theorem find?_applyTo (entries : Entries Value) (change : AttributeChange) (key : String) :
    (applyTo entries change).find? key =
      if change.path = key then change.after else entries.find? key := by
  rw [applyTo]
  split
  next value written => rw [Entries.find?_insert, written]
  next erased => rw [Entries.find?_erase, erased]

end AttributeChange

/-- The entries after all changes, in their order. -/
def patch (changes : List AttributeChange) (entries : Entries Value) : Entries Value :=
  changes.foldl AttributeChange.applyTo entries

section patch

variable {changes : List AttributeChange} {entries : Entries Value}

/-- What no change is about stays as it was. -/
theorem find?_patch_of_not_mem {key : String} (untouched : key ∉ changes.map AttributeChange.path) :
    (patch changes entries).find? key = entries.find? key := by
  induction changes generalizing entries with
  | nil => rfl
  | cons change rest ih =>
      rw [List.map_cons, List.mem_cons, not_or] at untouched
      rcases untouched with ⟨other, untouched⟩
      rw [patch, List.foldl_cons, ← patch, ih untouched, AttributeChange.find?_applyTo,
        if_neg (Ne.symm other)]

/-- What one change is about ends as this change has it, because no other one is about the same. -/
theorem find?_patch_of_mem (distinct : (changes.map AttributeChange.path).Nodup)
    {change : AttributeChange} (member : change ∈ changes) :
    (patch changes entries).find? change.path = change.after := by
  induction changes generalizing entries with
  | nil => cases member
  | cons first rest ih =>
      rcases List.nodup_cons.1 distinct with ⟨single, distinct⟩
      rw [patch, List.foldl_cons, ← patch]
      rcases List.mem_cons.1 member with rfl | member
      · -- The changes behind it leave the attribute as the first one made it.
        rw [find?_patch_of_not_mem single, AttributeChange.find?_applyTo, if_pos rfl]
      · exact ih distinct member

end patch

namespace ContactAttributes

/-! ### What an object shows -/

/--
An object shows the attributes of a contact that may be missing: under each of their keys it has the text
of the attribute, and null or nothing where there is no text.
-/
def Shows (entries : Entries Value) (attributes : Option ContactAttributes) : Prop :=
  ∀ path ∈ keys, (entries.find? path).bind Value.present? = (textOf attributes path).map .string

/-- An object shows the attributes that are found in it. -/
theorem shows_some_iff {entries : Entries Value} {attributes : ContactAttributes} :
    Shows entries (some attributes) ↔ attributes.FoundIn entries := by
  have comment : (entries.find? "comment").bind Value.present? =
        attributes.comment.map .string ↔
      (entries.find? "comment").elim (.ok none) (Decoder.optional Decoder.string) =
        .ok attributes.comment := by
    rw [optionalString_eq_ok_iff]
    cases attributes.comment with
    | none =>
        rw [Option.map_none, Value.bind_present?_eq_none_iff]
        simp
    | some text =>
        rw [Option.map_some, Value.bind_present?_eq_some_iff]
        simp
  simp only [Shows, keys, List.forall_mem_cons, textOf_name, textOf_email, textOf_comment, comment,
    Option.map_some, Value.bind_present?_eq_some_iff, List.not_mem_nil, false_implies, implies_true,
    ne_eq, reduceCtorEq, not_false_eq_true, and_true]
  constructor
  · rintro ⟨name, email, comment⟩
    exact ⟨name, email, comment⟩
  · rintro ⟨name, email, comment⟩
    exact ⟨name, email, comment⟩

/-- What is there for an attribute is its text; null and nothing are the same to this. -/
theorem present?_valueOf {attributes : Option ContactAttributes} {path : String} (member : path ∈ keys) :
    (valueOf attributes path).bind Value.present? = (textOf attributes path).map .string := by
  cases attributes with
  | none => rfl
  | some attributes =>
      simp only [keys, List.mem_cons, List.not_mem_nil, or_false] at member
      rcases member with rfl | rfl | rfl
      · rw [valueOf, Option.bind_some, valueAt?_name, textOf_name]
        rfl
      · rw [valueOf, Option.bind_some, valueAt?_email, textOf_email]
        rfl
      · rw [valueOf, Option.bind_some, valueAt?_comment, textOf_comment, commentValue]
        cases attributes.comment with
        | none => rfl
        | some comment => rfl

section changesBetween

variable {current desired : Option ContactAttributes} {change : AttributeChange}

/-- What changes are the attributes whose texts differ, in the order of the attributes. -/
theorem paths_changesBetween (current desired : Option ContactAttributes) :
    (changesBetween current desired).map AttributeChange.path =
      keys.filter fun path => textOf current path ≠ textOf desired path := by
  rw [changesBetween, List.map_map]
  exact List.map_id _

/-- The changes lead from one contact to the other, wherever else the one is shown. -/
theorem shows_patch {entries : Entries Value} (shows : Shows entries current) :
    Shows (patch (changesBetween current desired) entries) desired := by
  have paths := paths_changesBetween current desired
  intro path member
  by_cases same : textOf current path = textOf desired path
  · rw [find?_patch_of_not_mem (by simp [paths, same]), shows path member, same]
  · have distinct : ((changesBetween current desired).map AttributeChange.path).Nodup := by
      rw [paths]
      exact List.Nodup.filter _ (by decide)
    have changed : ⟨path, valueOf current path, valueOf desired path⟩ ∈
        changesBetween current desired := mem_changesBetween_iff.2 ⟨member, same, rfl, rfl⟩
    rw [find?_patch_of_mem distinct changed, present?_valueOf member]

end changesBetween

/-- Changes are a minimal patch between contacts that may be missing. -/
structure IsPatch (changes : List AttributeChange) (current desired : Option ContactAttributes) : Prop where
  ordered : (changes.map AttributeChange.path).Sublist keys
  before : ∀ change ∈ changes, change.before = valueOf current change.path
  after : ∀ change ∈ changes, change.after = valueOf desired change.path
  differs : ∀ change ∈ changes, change.before ≠ change.after
  leads : ∀ entries, Shows entries current → Shows (patch changes entries) desired

/-- The changes between two contacts are a minimal patch from one to the other. -/
theorem isPatch_changesBetween (current desired : Option ContactAttributes) :
    IsPatch (changesBetween current desired) current desired where
  ordered := by
    rw [paths_changesBetween]
    exact List.filter_sublist
  before := fun _ member => (mem_changesBetween_iff.1 member).2.2.1
  after := fun _ member => (mem_changesBetween_iff.1 member).2.2.2
  differs := by
    intro change member same
    rcases mem_changesBetween_iff.1 member with ⟨-, differs, before, after⟩
    rw [before, after] at same
    exact differs (congrArg (·.bind Value.text?) same)
  leads := fun _ => shows_patch

/-- What a state that may be missing decodes to. -/
def ofState? : Option Value → Except ProviderError (Option ContactAttributes)
  | none => .ok none
  | some state => (ofState state).map some

theorem ofState?_some {state : Value} {attributes : ContactAttributes}
    (decodes : ofState state = .ok attributes) : ofState? (some state) = .ok (some attributes) := by
  rw [ofState?, decodes]
  rfl

end ContactAttributes

namespace ContactProvider

open ContactAttributes

variable {σ : Type}

/-- The changes of every kind of plan are those between what its two states decode to. -/
theorem PlansChanges.exists_changesBetween {prior : Option Value} {proposed : Value}
    {changes : List AttributeChange} (plans : PlansChanges prior proposed changes) :
    ∃ current desired, ofState? prior = .ok current ∧ ofState? proposed.present? = .ok desired ∧
      changes = changesBetween current desired := by
  cases plans with
  | nothing => exact ⟨none, none, rfl, rfl, rfl⟩
  | added keeps desires =>
      rw [Value.present?_of_ne_null keeps]
      exact ⟨none, _, rfl, ofState?_some desires, changesBy_added _⟩
  | removed currently =>
      exact ⟨_, none, ofState?_some currently, rfl, changesBy_removed _⟩
  | modified keeps currently desires =>
      rw [Value.present?_of_ne_null keeps]
      exact ⟨_, _, ofState?_some currently, ofState?_some desires, diff_eq_changesBetween _ _⟩

/-! ### Updated states -/

/-- A replacement is required exactly if a changed attribute forces a new contact. -/
theorem requiresReplacement_iff {schema : Schema} {changes : List AttributeChange} :
    requiresReplacement schema changes = true ↔
      ∃ change ∈ changes, ∃ attr ∈ schema.attributes.find? change.path, attr.forceNew = true := by
  simp only [requiresReplacement, List.any_eq_true, Option.any_eq_true, Option.mem_def]

/-- What the plan of an update makes of the former state. -/
structure UpdatesState (former : Value) (current desired : Option ContactAttributes)
    (result : PlanResult) : Prop where
  verbatim : result.changes = [] → result.plannedState = former
  revised : result.changes ≠ [] → ∃ entries planned, former = .object entries ∧
    result.plannedState = .object planned ∧ Shows planned desired ∧
      Revises (current.map ContactAttributes.name ≠ desired.map ContactAttributes.name) entries planned
  replaces : result.requiresReplace = true ↔ ∃ change ∈ result.changes,
    ∃ attr ∈ contactSchema.attributes.find? change.path, attr.forceNew = true

/-- The plan of an update writes the attributes, what depends on them, and nothing else. -/
theorem updatesState_of_planUpdate {former proposed : Value} {result : PlanResult}
    (plans : planUpdate former proposed = .ok result) :
    ∃ current desired, ofState former = .ok current ∧ ofState proposed = .ok desired ∧
      UpdatesState former (some current) (some desired) result := by
  rcases planUpdate_cases plans with ⟨current, desired, currently, desires, outcome⟩
  refine ⟨current, desired, currently, desires, ?_⟩
  rcases outcome with ⟨-, rfl⟩ | ⟨differs, entries, rfl, rfl⟩
  · exact ⟨fun _ => rfl, absurd rfl, by simp [PlanResult.noChange]⟩
  · refine ⟨fun same => absurd (diff_eq_nil_iff.1 same) differs, fun _ => ?_, requiresReplacement_iff⟩
    rcases ofState_eq_ok_iff.1 currently with ⟨written, found, -⟩
    have decodes := decode_revisedEntries (decode_object_iff.1 found).1 current desired
    refine ⟨entries, _, rfl, rfl, shows_some_iff.2 (decode_object_iff.1 decodes).2, ?_⟩
    simp only [Option.map_some, ne_eq, Option.some.injEq]
    exact revises_revisedEntries current desired entries

/--
The changes of every plan that succeeds are a minimal patch from what the prior state decodes to, to what
the proposed state decodes to. The plan of an update without changes gives the prior state back, and that
of another one revises it: only the attributes and the last row of `SHOW` are written, and with the name
also the identifier and the fully qualified name.
-/
theorem plan_is_minimal_patch {resourceType : String} {prior : Option Value} {proposed : Value}
    {session : Session σ} {result : PlanResult}
    (plans : ((plan resourceType prior proposed).run session).1 = .ok result) :
    ∃ current desired, ofState? prior = .ok current ∧ ofState? proposed.present? = .ok desired ∧
      IsPatch result.changes current desired ∧
      ∀ former ∈ prior, proposed ≠ .null → UpdatesState former current desired result := by
  have planned := plan_eq_ok plans
  rcases (plansChanges_of_planStates planned).exists_changesBetween with
    ⟨current, desired, currently, desires, changes⟩
  refine ⟨current, desired, currently, desires, ?_, ?_⟩
  · rw [changes]
    exact isPatch_changesBetween current desired
  · rintro former ⟨⟩ keeps
    rw [planStates_some keeps] at planned
    rcases updatesState_of_planUpdate planned with ⟨_, _, formerDecodes, proposedDecodes, updates⟩
    rw [Value.present?_of_ne_null keeps] at desires
    cases (ofState?_some formerDecodes).symm.trans currently
    cases (ofState?_some proposedDecodes).symm.trans desires
    exact updates

/-- A state with a quoted name, an empty comment and a key that the schema does not know. -/
def ownedState : Value :=
  .object [("comment", .string ""), ("email", .string "ops@example.com"),
    ("fully_qualified_name", .string "OPS"), ("id", .string "OPS"), ("name", .string "\"OPS\""),
    ("owner", .string "SYSADMIN"), ("show_output", .array [])]

def renamedProposal : Value :=
  .object [("comment", .null), ("email", .string "ops@example.com"), ("name", .string "ONCALL")]

/-- The comment is not changed, and so the patch is a rename only. -/
theorem plan_is_minimal_patch_rename :
    ∃ result, ((plan contactResourceType (some ownedState) renamedProposal).run
        (⟨(), []⟩ : Session Unit)).1 = .ok result ∧
      IsPatch [.modified "name" (.string "OPS") (.string "ONCALL")]
        (some ⟨"OPS", "ops@example.com", none⟩) (some ⟨"ONCALL", "ops@example.com", none⟩) ∧
      result.plannedState.get? "owner" = some (.string "SYSADMIN") ∧
      result.plannedState.get? "id" = some .null ∧ result.requiresReplace = false := by
  have plans : ((plan contactResourceType (some ownedState) renamedProposal).run
      (⟨(), []⟩ : Session Unit)).1 = .ok _ := rfl
  rcases plan_is_minimal_patch plans with ⟨current, desired, ⟨⟩, ⟨⟩, isPatch, updates⟩
  have updated := updates ownedState rfl (by rintro ⟨⟩)
  rcases updated.revised (by rintro ⟨⟩) with ⟨entries, planned, ⟨⟩, written, -, revises⟩
  refine ⟨_, plans, isPatch, ?_, ?_, rfl⟩
  · rw [written, Value.get?, revises.kept "owner" (by decide) (by decide) fun _ => by decide]
    rfl
  · rw [written]
    exact (revises.unidentified (by decide)).1

end ContactProvider

end AlertContacts
