import AlertContacts.Proofs.Plan

/-!
# Plans on the wire

A plan travels as a value, and is read from it again. A side of a change that is absent is written as null,
and so is a side that is there without a value; reading null gives an absent side. So all of a plan comes
back but for the sides that are there with null (`PlanResult.decode_toValue`).

Only the comment of a contact can be without a value, and a plan shows that only where an update gives a
comment to a contact without one, or takes the only one away. Exactly these plans do not come back as they
were (`ContactProvider.plan_survives_wire_iff`): the modified comment looks like an attribute that appears
or goes away.
-/

namespace AlertContacts

open Json

namespace Json

/-- A value that is not null. -/
def Value.present? : Value → Option Value
  | .null => none
  | present => some present

/-- Only a side that is there with null is read as another one. -/
theorem Value.bind_present?_eq_self_iff {side : Option Value} :
    side.bind present? = side ↔ side ≠ some .null := by
  rcases side with _ | value
  · simp
  · cases value <;> simp [present?]

theorem Value.bind_present?_eq_some_iff {side : Option Value} {value : Value} :
    side.bind present? = some value ↔ side = some value ∧ value ≠ .null := by
  constructor
  · intro present
    rcases side with _ | (_ | _)
    all_goals cases present
    all_goals exact ⟨rfl, by rintro ⟨⟩⟩
  · rintro ⟨rfl, present⟩
    cases value with
    | null => exact absurd rfl present
    | _ => rfl

theorem Value.present?_of_ne_null {value : Value} (present : value ≠ .null) :
    value.present? = some value :=
  bind_present?_eq_some_iff.2 ⟨rfl, present⟩

theorem Value.bind_present?_eq_none_iff {side : Option Value} :
    side.bind present? = none ↔ side = none ∨ side = some .null := by
  rcases side with _ | value
  · simp
  · cases value <;> simp [present?]

theorem Value.present?_getD_null (side : Option Value) :
    (side.getD .null).present? = side.bind present? := by
  cases side <;> rfl

theorem Decoder.optional_value (value : Value) :
    optional Decoder.value value = .ok value.present? := by
  cases value <;> rfl

end Json

namespace AttributeChange

/-- A change as it is read from its encoding: a side with null is taken for an absent one. -/
def received (change : AttributeChange) : AttributeChange where
  path := change.path
  before := change.before.bind Value.present?
  after := change.after.bind Value.present?

/-- A change comes back as it was if neither side is there with null. -/
theorem received_eq_self_iff {change : AttributeChange} :
    change.received = change ↔ change.before ≠ some .null ∧ change.after ≠ some .null := by
  rcases change with ⟨path, before, after⟩
  simp only [received, mk.injEq, true_and, Value.bind_present?_eq_self_iff]

/-- The encoding of a change decodes, and a side with null comes back absent. -/
theorem decode_toValue (change : AttributeChange) : decode change.toValue = .ok change.received := by
  have coherent : record.Coherent := .and (.and (.and (.done _) .field) .field) .field
  refine (coherent.decoder_iff (Entries.ascending_ofList _)).2 ?_
  simp [record, Record.ofEntries_done, Record.ofEntries_and, Record.ofEntries_required,
    Record.ofEntries_optional, Entries.ofList, Entries.find?_insert, Decoder.optional_value,
    Decoder.string, Value.present?_getD_null, received]

end AttributeChange

namespace PlanResult

def received (plan : PlanResult) : PlanResult :=
  { plan with changes := plan.changes.map AttributeChange.received }

/-- A plan comes back as it was if each of its changes does. -/
theorem received_eq_self_iff {plan : PlanResult} :
    plan.received = plan ↔ ∀ change ∈ plan.changes, change.received = change := by
  rcases plan with ⟨state, changes, requiresReplace⟩
  have same : changes.map AttributeChange.received = changes.map id ↔
      ∀ change ∈ changes, change.received = id change := List.map_inj_left
  simpa [received] using same

/-- The encoding of a plan decodes, and only the sides with null do not come back. -/
theorem decode_toValue (plan : PlanResult) : decode plan.toValue = .ok plan.received := by
  have changes := Decoder.list_map AttributeChange.decode_toValue plan.changes
  have coherent : record.Coherent := .and (.and (.and (.done _) .field) .field) .field
  refine (coherent.decoder_iff (Entries.ascending_ofList _)).2 ?_
  simp [record, Record.ofEntries_done, Record.ofEntries_and, Record.ofEntries_required, Entries.ofList,
    Entries.find?_insert, Decoder.value, Decoder.boolean, changes, received]

end PlanResult

namespace ContactAttributes

/-- A comment is written as null only if there is none. -/
theorem commentValue_eq_null_iff {attributes : ContactAttributes} :
    attributes.commentValue = .null ↔ attributes.comment = none := by
  rw [commentValue]
  cases attributes.comment <;> simp [Value.ofOptional]

/-- Attributes that appear or go away have values. -/
theorem received_of_mem_changesBy {attributes : ContactAttributes}
    {make : String → Value → AttributeChange}
    (keeps : ∀ path value, value ≠ .null → (make path value).received = make path value)
    {change : AttributeChange} (member : change ∈ attributes.changesBy make) :
    change.received = change := by
  simp only [changesBy, List.mem_append, List.mem_cons, List.not_mem_nil, or_false] at member
  rcases member with (rfl | rfl) | comment
  · exact keeps _ _ (by rintro ⟨⟩)
  · exact keeps _ _ (by rintro ⟨⟩)
  · split at comment
    · rename_i commented
      rw [List.mem_singleton.1 comment]
      refine keeps _ _ ?_
      rw [ne_eq, commentValue_eq_null_iff]
      exact Option.isSome_iff_ne_none.1 commented
    · cases comment

theorem received_of_mem_added {attributes : ContactAttributes} {change : AttributeChange}
    (member : change ∈ attributes.changesBy .added) : change.received = change := by
  refine received_of_mem_changesBy ?_ member
  intro path value present
  exact AttributeChange.received_eq_self_iff.2 ⟨by rintro ⟨⟩, by simpa [AttributeChange.added]⟩

theorem received_of_mem_removed {attributes : ContactAttributes} {change : AttributeChange}
    (member : change ∈ attributes.changesBy .removed) : change.received = change := by
  refine received_of_mem_changesBy ?_ member
  intro path value present
  exact AttributeChange.received_eq_self_iff.2 ⟨by simpa [AttributeChange.removed], by rintro ⟨⟩⟩

/-- A change that is announced comes back as it was if both sides have values. -/
theorem received_of_mem_changeUnless_iff {agree : Bool} {path : String} {before after : Value} :
    (∀ change ∈ changeUnless agree path before after, change.received = change) ↔
      (agree = false → before ≠ .null ∧ after ≠ .null) := by
  cases agree with
  | true => simp [changeUnless]
  | false => simp [changeUnless, AttributeChange.received_eq_self_iff, AttributeChange.modified]

/-- The changes of an update come back as they were, unless it gives or takes the only comment. -/
theorem received_of_mem_diff_iff {current desired : ContactAttributes} :
    (∀ change ∈ current.diff desired, change.received = change) ↔
      (current.comment = none ↔ desired.comment = none) := by
  simp only [diff, List.forall_mem_append, received_of_mem_changeUnless_iff, ne_eq,
    commentValue_eq_null_iff, reduceCtorEq, not_false_eq_true, and_self, implies_true, true_and,
    decide_eq_false_iff_not]
  constructor
  · intro present
    by_cases same : current.comment = desired.comment
    · rw [same]
    · rcases present same with ⟨currently, desires⟩
      exact ⟨fun absent => absurd absent currently, fun absent => absurd absent desires⟩
  · intro alike different
    have present : current.comment ≠ none := by
      intro absent
      exact different (absent.trans (alike.1 absent).symm)
    exact ⟨present, fun absent => present (alike.2 absent)⟩

end ContactAttributes

namespace ContactProvider

open ContactAttributes

variable {σ : Type}

/--
The encoding of every plan decodes, and of its changes only sides that are there with null become absent
ones. So the plan comes back as it was exactly when it is not an update that gives a comment to a contact
without one, or takes the only one away.
-/
theorem plan_survives_wire_iff {resourceType : String} {prior : Option Value} {proposed : Value}
    {session : Session σ} {result : PlanResult}
    (plans : ((plan resourceType prior proposed).run session).1 = .ok result) :
    PlanResult.decode result.toValue = .ok result.received ∧
      (PlanResult.decode result.toValue = .ok result ↔
        ∀ former ∈ prior, proposed ≠ .null → ∀ current desired, ofState former = .ok current →
          ofState proposed = .ok desired → (current.comment = none ↔ desired.comment = none)) := by
  have changes := plansChanges_of_planStates (plan_eq_ok plans)
  have decodes := result.decode_toValue
  refine ⟨decodes, ?_⟩
  rw [decodes, Except.ok.injEq, PlanResult.received_eq_self_iff]
  generalize result.changes = planned at changes ⊢
  -- Only a plan that modifies attributes can show an attribute without a value.
  cases changes with
  | nothing => simp
  | added =>
      refine iff_of_true (fun change => received_of_mem_added) ?_
      rintro former ⟨⟩
  | removed =>
      refine iff_of_true (fun change => received_of_mem_removed) ?_
      intro former _ keeps
      exact absurd rfl keeps
  | @modified former _ current desired keeps currently desires =>
      rw [received_of_mem_diff_iff]
      constructor
      · intro alike _ formerly _ _ _ currentlyAgain desiresAgain
        cases formerly
        cases currently.symm.trans currentlyAgain
        cases desires.symm.trans desiresAgain
        exact alike
      · intro alike
        exact alike former rfl keeps current desired currently desires

/-- A state of the contact `OPS` with a comment or without one. -/
def stateWithComment (comment : Option String) : Value :=
  .object [("comment", .ofOptional comment), ("email", .string "ops@example.com"),
    ("id", .string "OPS"), ("name", .string "OPS")]

theorem plan_survives_wire_replaced_comment :
    ∃ result, ((plan contactResourceType (some (stateWithComment (some "on duty")))
        (stateWithComment (some "on call"))).run (⟨(), []⟩ : Session Unit)).1 = .ok result ∧
      result.changes = [.modified "comment" (.string "on duty") (.string "on call")] ∧
        PlanResult.decode result.toValue = .ok result := by
  have plans : ((plan contactResourceType (some (stateWithComment (some "on duty")))
      (stateWithComment (some "on call"))).run (⟨(), []⟩ : Session Unit)).1 = .ok _ := rfl
  refine ⟨_, plans, rfl, (plan_survives_wire_iff plans).2.2 ?_⟩
  rintro former ⟨⟩ - current desired ⟨⟩ ⟨⟩
  exact ⟨by rintro ⟨⟩, by rintro ⟨⟩⟩

/-- A comment that is given to a contact without one comes back as an attribute that appears. -/
theorem given_comment_comes_back_added :
    ∃ result received, ((plan contactResourceType (some (stateWithComment none))
        (stateWithComment (some "on duty"))).run (⟨(), []⟩ : Session Unit)).1 = .ok result ∧
      PlanResult.decode result.toValue = .ok received ∧
        result.changes = [.modified "comment" .null (.string "on duty")] ∧
          received.changes = [.added "comment" (.string "on duty")] ∧ received ≠ result := by
  refine ⟨_, _, rfl, PlanResult.decode_toValue _, rfl, rfl, ?_⟩
  intro same
  cases congrArg PlanResult.changes same

end ContactProvider

end AlertContacts
