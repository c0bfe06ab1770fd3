import AlertContacts.Proofs.Progress

/-!
# What an update leaves on the platform

An update of a contact that the platform's table holds as its prior state says ends, if it succeeds,
with the planned contact in the table in place of the former one, and with every other contact as it
was (`Platform.update_settles_table`).
-/

namespace AlertContacts

open Json ContactProvider

/-- A contact that is recorded under its own name has its planned name in the end. -/
theorem settledIdentifier_identifier (current desired : ContactAttributes) :
    settledIdentifier current.identifier current desired = desired.identifier := by
  rw [settledIdentifier]
  split
  · rename_i same
    rw [ContactAttributes.identifier, same]
    rfl
  · rfl

namespace ContactAttributes

/-- A state is never read as one with an empty comment. -/
theorem comment_ne_of_ofState {state : Value} {attributes : ContactAttributes}
    (decodes : ofState state = .ok attributes) : attributes.comment ≠ some "" := by
  rcases ofState_eq_ok_iff.1 decodes with ⟨written, -, rfl⟩
  simp [normalized, Option.filter_eq_some_iff]

end ContactAttributes

/-- An empty comment is shown as null, like a comment that is not there. -/
theorem ContactAttributes.commentValue_eq {attributes : ContactAttributes}
    (nonempty : attributes.comment ≠ some "") : attributes.commentValue =
      if attributes.stored.comment = "" then .null else .string attributes.stored.comment := by
  rw [commentValue, stored]
  cases comment : attributes.comment with
  | none => rfl
  | some text =>
      have different : text ≠ "" := by
        intro empty
        exact nonempty (comment.trans (congrArg some empty))
      simp [different, Value.ofOptional]

namespace Platform

variable (platform : Platform)

/--
An update that succeeds replaces the former contact in the platform's table by the planned one, leaves
every other contact as it was, and returns the planned attributes.
-/
theorem update_settles_table (config : ProviderConfig) {session after : Session Site}
    {resourceType : String} {prior planned state : Value} {current desired : ContactAttributes}
    (recordedAs : stateIdentifier prior = .ok current.identifier)
    (currently : ContactAttributes.ofState prior = .ok current)
    (desires : ContactAttributes.ofState planned = .ok desired)
    (found : session.client.table.find? current.name = some current.stored)
    (succeeds : ((platform.provider config).update resourceType prior planned).run session =
      (.ok state, after)) :
    after.client.table =
        (session.client.table.erase current.name).insert desired.name desired.stored ∧
      (∀ name stored, name ≠ current.name → session.client.table.find? name = some stored →
        after.client.table.find? name = some stored) ∧
      state.get? "name" = some (.string desired.name) ∧
        state.get? "email" = some (.string desired.email) ∧
          state.get? "comment" = some desired.commentValue := by
  rcases exists_of_run_update recordedAs currently desires succeeds with
    ⟨middle, contact, rfl, executes, finds⟩
  rcases Table.executeAll_alterations found (executeAll_of_executes executes) with ⟨free, settled⟩
  rcases exists_of_finds finds with ⟨unchanged, named, kept⟩
  rw [settledIdentifier_identifier] at named kept
  -- The row that is read back is the one of the entry that the alterations left.
  have kept : desired.stored = ⟨contact.email, contact.comment⟩ := by
    rw [settled] at kept
    simpa [Table.find?_insert, ContactAttributes.identifier] using kept
  refine ⟨unchanged.trans settled, ?_, ?_⟩
  · intro name stored other mentioned
    rw [unchanged, settled]
    exact Table.find?_insert_erase_of_ne free other mentioned
  · rcases get?_contactState contact with ⟨showsName, showsEmail, showsComment⟩
    have email : desired.email = contact.email := congrArg Stored.email kept
    rw [ContactAttributes.commentValue_eq (ContactAttributes.comment_ne_of_ofState desires), kept]
    refine ⟨?_, ?_, showsComment⟩
    · rw [showsName, named]
      rfl
    · rw [showsEmail, email]

def opsTable : Table where
  entries := [("BACKUP", ⟨"backup@example.com", ""⟩), ("OPS", ⟨"ops@example.com", "on duty"⟩)]
  ascending := by decide

def opsSession : Session Site where
  client := { table := opsTable }

theorem update_settles_table_oncall :
    ∃ state after,
      ((plain.provider {}).update contactResourceType opsState oncallState).run opsSession =
        (.ok state, after) ∧
      after.client.table =
        (opsTable.erase "OPS").insert "ONCALL" ⟨"oncall@example.com", ""⟩ ∧
      after.client.table.find? "BACKUP" = some ⟨"backup@example.com", ""⟩ ∧
      state.get? "comment" = some .null := by
  have recordedAs : stateIdentifier opsState = .ok ⟨"OPS"⟩ := rfl
  have currently : ContactAttributes.ofState opsState =
      .ok ⟨"OPS", "ops@example.com", some "on duty"⟩ := rfl
  have desires : ContactAttributes.ofState oncallState =
      .ok ⟨"ONCALL", "oncall@example.com", none⟩ := rfl
  have found : opsSession.client.table.find? "OPS" = some ⟨"ops@example.com", "on duty"⟩ := rfl
  have free : opsSession.client.table.find? "ONCALL" = none := rfl
  have complies : opsSession.client.Complies (ProviderConfig.limit? {}) := by
    simp [Site.Complies, opsSession]
  rcases update_succeeds plain plain_regular {} recordedAs currently desires found (.inr free)
    (by decide) complies with ⟨state, after, ran⟩
  rcases update_settles_table plain {} recordedAs currently desires found ran with
    ⟨settled, others, -, -, comment⟩
  exact ⟨state, after, ran, settled, others "BACKUP" _ (by decide) rfl, comment⟩

end Platform

end AlertContacts
