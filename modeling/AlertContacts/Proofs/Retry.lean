import AlertContacts.Proofs.Identity
import AlertContacts.Proofs.Progress
import AlertContacts.Proofs.Replay
import AlertContacts.Proofs.Settlement

/-!
# Updates that are tried again

When a property statement of an update is refused behind its rename, the platform has the contact under
its new name, and each of its properties is either the former one or the planned one already
(`Table.Halfway`). The state that the failure carries may be behind the platform: it has the new name, and
all of the former properties.

Tried again from that state, the update has nothing to rename, and it settles everything that differs
between the former and the planned properties once more. This is right whatever has been settled before,
because a property that the two agree on cannot have changed, and to assign or reset one twice is to do it
once (`Platform.retry_converges`).
-/

namespace AlertContacts

open Json ContactProvider

namespace Stored.Between

variable {stored : Stored} {current desired : ContactAttributes}

/-- Assigning what differs keeps the properties between the former and the planned ones. -/
theorem assigned (between : stored.Between current.stored desired.stored) :
    (stored.changed (propertiesToSet current desired) {}).Between current.stored desired.stored := by
  rcases between with ⟨email, comment⟩
  constructor
  · by_cases same : current.email = desired.email
    · simpa [Stored.changed, propertiesToSet, same] using email
    · simp [Stored.changed, propertiesToSet, same, ContactAttributes.stored]
  · by_cases same : current.comment = desired.comment
    · simpa [Stored.changed, propertiesToSet, same] using comment
    · cases wanted : desired.comment with
      | none => simpa [Stored.changed, propertiesToSet, wanted] using comment
      | some text =>
          right
          simp [Stored.changed, propertiesToSet, wanted, wanted ▸ same, ContactAttributes.stored]

/-- Resetting what is not wanted keeps the properties between the former and the planned ones. -/
theorem reset (between : stored.Between current.stored desired.stored) :
    (stored.changed {} (propertiesToUnset current desired)).Between current.stored
      desired.stored := by
  rcases between with ⟨email, comment⟩
  refine ⟨email, ?_⟩
  by_cases resets : propertiesToUnset current desired = {}
  · simpa [resets] using comment
  · right
    have wanted := (of_propertiesToUnset_ne resets).2
    simp [Stored.changed, propertiesToUnset_of_ne resets, ContactAttributes.stored, wanted]

end Stored.Between

/-! ### Tables half way -/

/-- A contact has its new name, and each of its properties is the former one or the planned one. -/
def Table.Halfway (start : Table) (current desired : ContactAttributes) (table : Table) : Prop :=
  ∃ stored : Stored, stored.Between current.stored desired.stored ∧
    table = (start.erase current.name).insert desired.name stored

section halfway

variable {start table next : Table} {current desired : ContactAttributes} {statement : Statement}

/-- Properties are settled by alterations alone. -/
theorem exists_alter_of_mem_settles {identifier : Identifier} :
    ∀ statement ∈ settles identifier current desired, ∃ request, statement = .alter request := by
  intro statement member
  rcases Statement.mem_forProperties member with rfl | rfl
  · exact ⟨_, rfl⟩
  · exact ⟨_, rfl⟩

theorem renameTo_of_mem_settles {identifier : Identifier} {request : AlterContact}
    (member : .alter request ∈ settles identifier current desired) : request.renameTo = none := by
  rcases Statement.mem_forProperties member with same | same
  · cases same
    rfl
  · cases same
    rfl

/-- Half way, the contact is in the table under its new name, and the others are as they were. -/
theorem Table.Halfway.exists_stored (halfway : start.Halfway current desired table) :
    ∃ stored : Stored, stored.Between current.stored desired.stored ∧
      table.find? desired.identifier.name = some stored ∧
        ∀ changed, table.insert desired.identifier.name changed =
          (start.erase current.name).insert desired.name changed := by
  rcases halfway with ⟨stored, between, rfl⟩
  refine ⟨stored, between, Table.find?_insert_self .., ?_⟩
  intro changed
  exact Table.insert_insert ..

/-- A property statement leaves the contact half way. -/
theorem Table.Halfway.execute (halfway : start.Halfway current desired table)
    (member : statement ∈ settles desired.identifier current desired)
    (executed : table.execute statement = .ok next) : start.Halfway current desired next := by
  rcases halfway.exists_stored with ⟨stored, between, found, inserts⟩
  rcases Statement.mem_forProperties member with rfl | rfl
  · rw [Table.execute_assign found, inserts, Except.ok.injEq] at executed
    exact ⟨_, between.assigned, executed.symm⟩
  · rw [Table.execute_reset found, inserts, Except.ok.injEq] at executed
    exact ⟨_, between.reset, executed.symm⟩

/-- The property statements lead on to the planned contact. -/
theorem Table.Halfway.executeAll (halfway : start.Halfway current desired table)
    (executed : table.executeAll (settles desired.identifier current desired) = .ok next) :
    next = (start.erase current.name).insert desired.name desired.stored := by
  rcases halfway.exists_stored with ⟨stored, between, found, inserts⟩
  rw [settles, Table.executeAll_forProperties found, inserts,
    ContactAttributes.changed_of_between between, Except.ok.injEq] at executed
  exact executed.symm

/-- However many of the property statements are done, the contact stays half way. -/
theorem Table.Halfway.replay {limit : Option Nat} {sent : List Exchange} {succeeded : Bool}
    (halfway : start.Halfway current desired table)
    (attempted : Attempted limit (settles desired.identifier current desired) sent succeeded)
    (replays : table.replay sent = some next) : start.Halfway current desired next := by
  apply attempted.replay_preserves exists_alter_of_mem_settles ?_ halfway replays
  intro statement member table next halfway executed
  exact halfway.execute member executed

/-- Half way, every other contact is as it was. -/
theorem Table.Halfway.find?_of_ne (halfway : start.Halfway current desired table) {name : String}
    (notFormer : name ≠ current.name) (notPlanned : name ≠ desired.name) :
    table.find? name = start.find? name := by
  rcases halfway with ⟨stored, -, rfl⟩
  rw [Table.find?_insert, if_neg notPlanned.symm, Table.find?_erase, if_neg notFormer.symm]

end halfway

namespace Platform

variable (platform : Platform) (config : ProviderConfig) {session : Session Site}
  {resourceType : String} {prior planned state : Value} {current desired : ContactAttributes}
  {cause : ProviderError}

/-- An update that fails behind its rename leaves the contact half way. -/
theorem halfway_of_partialUpdate (recordedAs : stateIdentifier prior = .ok current.identifier)
    (currently : ContactAttributes.ofState prior = .ok current)
    (desires : ContactAttributes.ofState planned = .ok desired)
    (found : session.client.table.find? current.name = some current.stored)
    (fails : (((platform.provider config).update resourceType prior planned).run session).1 =
      .error (.partialUpdate state cause)) :
    session.client.table.Halfway current desired
      (((platform.provider config).update resourceType prior planned).run
        session).2.client.table := by
  have ends := (platform.provider config).update_ends resourceType recordedAs currently desires session
  rw [fails] at ends
  rcases unsettled_of_partialUpdate ends with ⟨-, before, sent, parts, renamed, unsettled⟩
  have replays := platform.replay_updateExchanges config resourceType prior planned session
  rw [parts, Table.replay_append, Option.bind_eq_some_iff] at replays
  rcases replays with ⟨middle, renames, settles⟩
  -- The rename was done, so the property statements started from the former contact under a free name.
  have moved := renamed.executeAll_of_replay (by simp [Statement.rename]) renames
  rw [Table.executeAll_singleton] at moved
  have free := Table.free_of_execute_rename found moved
  rw [Table.execute_rename found free, Except.ok.injEq] at moved
  have halfway : session.client.table.Halfway current desired middle :=
    ⟨_, .former .., moved.symm⟩
  exact halfway.replay unsettled settles

section again

variable (again : Session Site) (recordedAs : stateIdentifier state = .ok desired.identifier)
  (currently : ContactAttributes.ofState state = .ok { current with name := desired.name })
  (desires : ContactAttributes.ofState planned = .ok desired)

include recordedAs currently desires

/-- Under the new name there is nothing to rename, and the same properties are left to settle. -/
theorem sentThrough_again :
    SentThrough config.limit? (settles desired.identifier current desired)
      (ContactsService.lookup desired.identifier)
      ((platform.provider config).updateExchanges contactResourceType state planned again) := by
  have through := (platform.provider config).sentThrough_update again recordedAs currently desires
  rw [alterations_eq, renames, if_pos rfl, settledIdentifier, if_pos rfl] at through
  exact through

/-- What is sent when the update is tried again is about the new name, and renames nothing. -/
theorem exists_statement_again {exchange : Exchange}
    (member : exchange ∈
      (platform.provider config).updateExchanges contactResourceType state planned again) :
    ∃ statement, Statement.ofSql? exchange.sql = some statement ∧
      statement.subject? = some desired.name ∧
        ∀ request, statement = .alter request → request.renameTo = none := by
  have through := platform.sentThrough_again config again recordedAs currently desires
  rcases through.exists_statement rfl member with ⟨statement, mentioned, valid, text⟩
  refine ⟨statement, ?_, ?_⟩
  · rw [text, Statement.ofSql?_sql valid]
  · rcases List.mem_append.1 mentioned with settles | looks
    · refine ⟨subject?_of_mem_settles settles, ?_⟩
      rintro request rfl
      exact renameTo_of_mem_settles settles
    · rw [List.mem_singleton.1 looks]
      exact ⟨rfl, by rintro request ⟨⟩⟩

/-- However the second update ends, the contact is half way behind it as well. -/
theorem halfway_again {start : Table} (halfway : start.Halfway current desired again.client.table) :
    start.Halfway current desired
      (((platform.provider config).update contactResourceType state planned).run
        again).2.client.table := by
  have replays := platform.replay_updateExchanges config contactResourceType state planned again
  rcases platform.sentThrough_again config again recordedAs currently desires with
    attempted | ⟨before, exchange, parts, text, attempted⟩
  · exact halfway.replay attempted replays
  · rw [parts] at replays
    exact halfway.replay attempted (Table.replay_of_append_list text replays)

/-- If every alteration is accepted this time, the contact is the planned one. -/
theorem settled_again {start : Table} (halfway : start.Halfway current desired again.client.table)
    (accepted : ∀ exchange ∈
      (platform.provider config).updateExchanges contactResourceType state planned again,
      ∀ request, Statement.ofSql? exchange.sql = some (.alter request) →
        exchange.Succeeded config.limit?) :
    (((platform.provider config).update contactResourceType state planned).run
        again).2.client.table =
      (start.erase current.name).insert desired.name desired.stored := by
  have replays := platform.replay_updateExchanges config contactResourceType state planned again
  have valid : ∀ statement ∈ settles desired.identifier current desired,
      statement.violations = [] := by
    intro statement member
    exact Statement.forProperties_valid (name_ne_of_stateIdentifier recordedAs) member
  have through := platform.sentThrough_again config again recordedAs currently desires
  have attempted := through.attempted_of_succeeded valid ?_
  · rcases attempted with ⟨before, exchange, parts, text, attempted⟩
    rw [parts] at replays
    apply halfway.executeAll
    exact attempted.executeAll_of_replay exists_alter_of_mem_settles
      (Table.replay_of_append_list text replays)
  · rintro exchange member ⟨statement, mentioned, text⟩
    rcases exists_alter_of_mem_settles statement mentioned with ⟨request, rfl⟩
    apply accepted exchange member request
    rw [text, Statement.ofSql?_sql (valid _ mentioned)]

end again

/--
An update that failed behind its rename is tried again with the state that it carried: nothing is renamed
any more, every statement is about the new name, and the other contacts stay as they are. If every
alteration succeeds this time, the contact ends as it was planned in the first place.
-/
theorem retry_converges {after again : Session Site}
    (recordedAs : stateIdentifier prior = .ok current.identifier)
    (currently : ContactAttributes.ofState prior = .ok current)
    (desires : ContactAttributes.ofState planned = .ok desired)
    (stable : ContactAttributes.normalName desired.name = desired.name)
    (found : session.client.table.find? current.name = some current.stored)
    (fails : ((platform.provider config).update resourceType prior planned).run session =
      (.error (.partialUpdate state cause), after))
    (same : again.client.table = after.client.table) :
    let sent := (platform.provider config).updateExchanges contactResourceType state planned again
    let final :=
      (((platform.provider config).update contactResourceType state planned).run again).2.client.table
    (∀ exchange ∈ sent, ∃ statement, Statement.ofSql? exchange.sql = some statement ∧
        statement.subject? = some desired.name ∧
          ∀ request, statement = .alter request → request.renameTo = none) ∧
      (∀ name, name ≠ current.name → name ≠ desired.name →
        final.find? name = session.client.table.find? name) ∧
      ((∀ exchange ∈ sent, ∀ request, Statement.ofSql? exchange.sql = some (.alter request) →
          exchange.Succeeded config.limit?) →
        final = (session.client.table.erase current.name).insert desired.name desired.stored) := by
  intro sent final
  have ends := congrArg Prod.fst fails
  have halfway := platform.halfway_of_partialUpdate config recordedAs currently desires found ends
  rw [fails, ← same] at halfway
  rcases carried_of_partialUpdate currently desires stable ends with
    ⟨recordedAgain, currentlyAgain⟩
  refine ⟨?_, ?_, ?_⟩
  · intro exchange member
    exact platform.exists_statement_again config again recordedAgain currentlyAgain desires member
  · intro name notFormer notPlanned
    have stays := platform.halfway_again config again recordedAgain currentlyAgain desires halfway
    exact stays.find?_of_ne notFormer notPlanned
  · intro accepted
    exact platform.settled_again config again recordedAgain currentlyAgain desires halfway accepted

/-- The rename and the assignment are accepted, and the reset of the comment is refused. -/
def refusingReset : Session Site where
  client :=
    { table := opsTable
      deliveries := [{}, {}, { refusal := some (.execution none "denied") }] }

def refusedReset : Except ProviderError Value × Session Site :=
  ((plain.provider {}).update contactResourceType opsState oncallState).run refusingReset

theorem retry_converges_refused_reset :
    ∃ state cause after, refusedReset = (.error (.partialUpdate state cause), after) ∧
      (((plain.provider {}).update contactResourceType state oncallState).run
        after).2.client.table = (opsTable.erase "OPS").insert "ONCALL" ⟨"oncall@example.com", ""⟩ := by
  have recordedAs : stateIdentifier opsState = .ok ⟨"OPS"⟩ := rfl
  have currently : ContactAttributes.ofState opsState =
      .ok ⟨"OPS", "ops@example.com", some "on duty"⟩ := rfl
  have desires : ContactAttributes.ofState oncallState =
      .ok ⟨"ONCALL", "oncall@example.com", none⟩ := rfl
  have found : refusingReset.client.table.find? "OPS" = some ⟨"ops@example.com", "on duty"⟩ := rfl
  have carries : (match refusedReset.1 with
      | .error error => error.partialState?.isSome
      | .ok _ => false) = true := by decide +kernel
  have succeed : ∀ exchange ∈ (plain.provider {}).updateExchanges contactResourceType
      (renamedState opsState ⟨"ONCALL"⟩) oncallState refusedReset.2,
        exchange.Succeeded (ProviderConfig.limit? {}) := by decide +kernel
  cases ends : refusedReset.1 with
  | ok state =>
      rw [ends] at carries
      cases carries
  | error error =>
      rw [ends] at carries
      rcases Option.isSome_iff_exists.1 carries with ⟨state, carried⟩
      rcases error.exists_of_partialState? carried with ⟨cause, rfl⟩
      have fails : refusedReset = (.error (.partialUpdate state cause), refusedReset.2) :=
        Prod.ext ends rfl
      have updated := (plain.provider {}).update_ends contactResourceType recordedAs currently desires
        refusingReset
      rcases unsettled_of_partialUpdate (ends ▸ updated) with ⟨rfl, -⟩
      rcases retry_converges plain {} recordedAs currently desires rfl found fails rfl with
        ⟨-, -, settled⟩
      refine ⟨_, cause, _, fails, settled ?_⟩
      intro exchange member request _
      exact succeed exchange member

end Platform

end AlertContacts
