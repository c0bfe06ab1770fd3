import AlertContacts.Proofs.Platform

/-!
# Updates that succeed

A platform that refuses nothing and answers in time (`Site.Complies`), whose rows decode and which
takes every name to be like itself (`Platform.Regular`), leaves an update no reason to fail, as long as
the planned name is not empty and no other contact has it (`Platform.update_succeeds`). Each step
keeps the platform compliant and makes of the table what its statements ask for (`Session.Keeps`).
-/

namespace AlertContacts

open Json ContactProvider

variable {τ ε ε' α β : Type}

/-! ### Runs that succeed -/

namespace Run

/-- A run ends with a result, and with a state that a property holds of. -/
def Succeeds (run : Run τ ε α) (before : τ) (property : α → τ → Prop) : Prop :=
  ∃ result after, run.run before = (.ok result, after) ∧ property result after

variable {first : Run τ ε α} {next : α → Run τ ε β} {before : τ} {middle property : α → τ → Prop}
  {last : β → τ → Prop}

theorem Succeeds.pure {result : α} (holds : property result before) :
    (Pure.pure result : Run τ ε α).Succeeds before property :=
  ⟨result, before, rfl, holds⟩

theorem Succeeds.weaken {other : α → τ → Prop} (succeeds : first.Succeeds before property)
    (implies : ∀ result after, property result after → other result after) :
    first.Succeeds before other := by
  rcases succeeds with ⟨result, after, ran, holds⟩
  exact ⟨result, after, ran, implies result after holds⟩

/-- A run that succeeds goes on with what it led to. -/
theorem Succeeds.bind (succeeds : first.Succeeds before middle)
    (continues : ∀ result after, middle result after → (next result).Succeeds after last) :
    (first >>= next).Succeeds before last := by
  rcases succeeds with ⟨result, after, ran, holds⟩
  rcases continues result after holds with ⟨other, ended, continued, reached⟩
  refine ⟨other, ended, ?_, reached⟩
  rw [run_bind, ran]
  exact continued

/-- A run that succeeds needs no handler. -/
theorem Succeeds.recover {handle : ε → Run τ ε' α} (succeeds : first.Succeeds before property) :
    (first.recover handle).Succeeds before property := by
  rcases succeeds with ⟨result, after, ran, holds⟩
  refine ⟨result, after, ?_, holds⟩
  rw [run_recover, ran]

end Run

/-! ### Platforms that leave no reason to fail -/

/-- A site refuses nothing, and answers within the limit. -/
def Site.Complies (site : Site) (limit : Option Nat) : Prop :=
  ∀ delivery ∈ site.deliveries, delivery.refusal = none ∧ ∀ bound ∈ limit, delivery.elapsed ≤ bound

/-- A compliant site answers with success and in time, and stays compliant. -/
theorem Site.exists_answer_of_complies {site : Site} {limit : Option Nat}
    (complies : site.Complies limit) (result : α) (table : Table) :
    ∃ elapsed after, site.answer (.ok (result, table)) = (⟨.ok result, elapsed⟩, after) ∧
      (∀ bound ∈ limit, elapsed ≤ bound) ∧ after.table = table ∧ after.Complies limit := by
  rcases site with ⟨before, _ | ⟨delivery, deliveries⟩⟩
  · exact ⟨0, ⟨table, []⟩, rfl, by simp, rfl, by simp [Complies]⟩
  · rcases complies delivery (List.mem_cons_self ..) with ⟨accepted, inTime⟩
    refine ⟨delivery.elapsed, ⟨table, deliveries⟩, ?_, inTime, rfl, ?_⟩
    · simp [answer, accepted]
    · intro other member
      exact complies other (List.mem_cons_of_mem _ member)

/-- A session whose platform complies and has a table. -/
structure Session.Keeps (limit : Option Nat) (table : Table) (session : Session Site) : Prop where
  table : session.client.table = table
  complies : session.client.Complies limit

theorem Session.Keeps.of_client_eq {limit : Option Nat} {table : Table} {session after : Session Site}
    (keeps : session.Keeps limit table) (same : after.client = session.client) :
    after.Keeps limit table := by
  rcases keeps with ⟨table, complies⟩
  rw [← same] at table complies
  exact ⟨table, complies⟩

theorem Session.succeeds_log (event : Event) (session : Session Site) :
    (log event : Run (Session Site) ε Unit).Succeeds session fun _ after =>
      after.client = session.client :=
  ⟨_, _, rfl, rfl⟩

/-- A platform whose rows decode, and that takes every name to be like itself. -/
structure Platform.Regular (platform : Platform) : Prop where
  isLike_self (name : String) : platform.isLike name name = true
  decodes (name : String) (stored : Stored) :
    ∃ shown, ShowRow.decode (.object (platform.row name stored)) = .ok shown

/-! ### The service -/

namespace ContactsService

variable {platform : Platform} {service : ContactsService Site} {session : Session Site}
  {table next : Table} {statement : Statement}

/-- A statement that breaks no rule is prepared. -/
theorem succeeds_prepare (service : ContactsService Site) (valid : statement.violations = [])
    (session : Session Site) : (service.prepare statement).Succeeds session fun sql after =>
      sql = statement.sql ∧ after.client = session.client := by
  rw [prepare, Statement.checkedSql_of_valid valid]
  exact ⟨_, _, rfl, rfl, rfl⟩

/-- An answer of a compliant site is received. -/
theorem succeeds_receive {ask : Site → Reply α × Site} {result : α}
    (complies : session.client.Complies service.limit)
    (answers : ask session.client = session.client.answer (.ok (result, next))) :
    (service.receive ask).Succeeds session fun received after =>
      received = result ∧ after.Keeps service.limit next := by
  rcases Site.exists_answer_of_complies complies result next with
    ⟨elapsed, after, answered, inTime, left, complies⟩
  have notOverdue : service.isOverdue elapsed = false := isOverdue_eq_false_iff.2 inTime
  refine ⟨result, { session with client := after }, ?_, rfl, left, complies⟩
  simp [receive, answers, answered, notOverdue, Except.mapError]

section serves

variable (serves : service.client = platform.client)
  (keeps : session.Keeps service.limit table)

include serves keeps

/-- A statement that the table allows is executed, and the table is as it says. -/
theorem succeeds_execute (valid : statement.violations = [])
    (executed : table.execute statement = .ok next) :
    (service.execute statement).Succeeds session fun _ after => after.Keeps service.limit next := by
  refine (service.succeeds_prepare valid session).bind ?_
  rintro _ prepared ⟨rfl, same⟩
  have prepares := keeps.of_client_eq same
  have answers : service.client.exec statement.sql prepared.client =
      prepared.client.answer (.ok ((), next)) := by
    rw [serves, Platform.exec_sql valid, prepares.table, executed]
    rfl
  refine (succeeds_receive prepares.complies answers).weaken ?_
  rintro _ after ⟨-, kept⟩
  exact kept

theorem succeeds_alter {request : AlterContact} (valid : (Statement.alter request).violations = [])
    (executed : table.execute (.alter request) = .ok next) :
    (service.alter request).Succeeds session fun _ after => after.Keeps service.limit next := by
  have serves : (service.on "contacts.alter" request.name).client = platform.client := serves
  exact succeeds_execute serves keeps valid executed

/-- Rows that all decode are fetched, and the table stays as it is. -/
theorem succeeds_fetch {listing : ShowContacts} {decode : Decoder α} {results : List α}
    (decodes : (platform.listed listing table).mapM (fun row => decode (.object row)) = .ok results) :
    (service.fetch (.list listing) decode).Succeeds session fun found after =>
      found = results ∧ after.Keeps service.limit table := by
  refine (service.succeeds_prepare rfl session).bind ?_
  rintro _ prepared ⟨rfl, same⟩
  have prepares := keeps.of_client_eq same
  have answers : service.client.query (Statement.list listing).sql prepared.client =
      prepared.client.answer (.ok (platform.listed listing table, table)) := by
    rw [serves, Platform.query_sql, prepares.table]
  refine (succeeds_receive prepares.complies answers).bind ?_
  rintro _ received ⟨rfl, receives⟩
  refine (Session.succeeds_log _ received).bind ?_
  intro _ logged same
  rw [decodes]
  exact ⟨results, logged, rfl, rfl, receives.of_client_eq same⟩

/-- A listing gives the contact of each row that a regular platform lists. -/
theorem succeeds_show (regular : platform.Regular) (request : ShowContacts) :
    (service.show request).Succeeds session fun contacts after =>
      after.Keeps service.limit table ∧ ∀ row ∈ platform.listed request table, ∃ shown,
        ShowRow.decode (.object row) = .ok shown ∧ Contact.ofRow shown ∈ contacts := by
  have decodes : ∀ row ∈ platform.listed request table,
      ∃ shown, ShowRow.decode (.object row) = .ok shown := by
    intro row member
    rcases Platform.exists_of_mem_listed member with ⟨name, stored, -, rfl⟩
    exact regular.decodes name stored
  rcases exists_mapM_iff.2 decodes with ⟨rows, mapped⟩
  have serves : (service.inside ⟨"contacts.show", []⟩).client = platform.client := serves
  refine (succeeds_fetch serves keeps mapped).bind ?_
  rintro _ after ⟨rfl, kept⟩
  refine .pure ⟨kept, ?_⟩
  intro row member
  rcases exists_result_of_mapM mapped row member with ⟨shown, mentioned, decoded⟩
  exact ⟨shown, decoded, List.mem_map_of_mem mentioned⟩

/-- A lookup finds a contact that the table has. -/
theorem succeeds_showById (regular : platform.Regular) {identifier : Identifier} {stored : Stored}
    (found : table.find? identifier.name = some stored) :
    (service.showById identifier).Succeeds session fun _ after =>
      after.Keeps service.limit table := by
  have serves : (service.on "contacts.show_by_id" identifier).client = platform.client := serves
  refine (succeeds_show serves keeps regular _).bind ?_
  rintro contacts after ⟨kept, shows⟩
  -- The name is like itself, so the contact is listed, and one of its name is found among the rows.
  have listed := platform.row_mem_listed (regular.isLike_self identifier.name) found
  rcases shows _ listed with ⟨shown, decoded, mentioned⟩
  have named := (ShowRow.foundIn_of_decode decoded).name
  rw [platform.name_row, Option.some.injEq, Value.string.injEq] at named
  have some : (contacts.find? (·.name = identifier.name)).isSome = true := by
    rw [List.find?_isSome]
    exact ⟨_, mentioned, decide_eq_true named.symm⟩
  rcases Option.isSome_iff_exists.1 some with ⟨contact, chosen⟩
  simp only [chosen]
  exact .pure kept

theorem succeeds_showByIdSafely (regular : platform.Regular) {identifier : Identifier}
    {stored : Stored} (found : table.find? identifier.name = some stored) :
    (service.showByIdSafely identifier).Succeeds session fun contact after =>
      contact.isSome = true ∧ after.Keeps service.limit table := by
  have serves : (service.on "contacts.show_by_id_safely" identifier).client = platform.client :=
    serves
  apply Run.Succeeds.recover
  refine (succeeds_showById serves keeps regular found).bind ?_
  intro contact after kept
  exact .pure ⟨rfl, kept⟩

end serves

end ContactsService

/-! ### The provider -/

namespace ContactProvider

variable {platform : Platform} {provider : ContactProvider Site} {contacts : ContactsService Site}
  {session : Session Site} {table next final : Table} {identifier target recorded : Identifier}
  {set : SetProperties} {unset : UnsetProperties} {current desired : ContactAttributes}
  {prior : Value} {renamed : Bool} {stored : Stored}

section serves

variable (serves : contacts.client = platform.client)
  (keeps : session.Keeps contacts.limit table)

include serves keeps

/-- An alteration that is needed is made, and otherwise the table is as before. -/
theorem succeeds_alterIf {needed : Prop} [Decidable needed] {request : AlterContact}
    (valid : needed → (Statement.alter request).violations = [])
    (executed : table.executeAll (if needed then [.alter request] else []) = .ok next) :
    (provider.alterIf contacts needed request).Succeeds session fun _ after =>
      after.Keeps contacts.limit next := by
  rw [alterIf]
  split
  · rename_i isNeeded
    rw [if_pos isNeeded, Table.executeAll_singleton] at executed
    apply Run.Succeeds.recover
    exact ContactsService.succeeds_alter serves keeps (valid isNeeded) executed
  · rename_i notNeeded
    rw [if_neg notNeeded] at executed
    cases executed
    exact .pure keeps

/-- Properties are applied if the table allows their statements. -/
theorem succeeds_applyProperties (named : identifier.name ≠ "")
    (executed : table.executeAll (Statement.forProperties identifier set unset) = .ok next) :
    (provider.applyProperties contacts identifier set unset).Succeeds session fun _ after =>
      after.Keeps contacts.limit next := by
  rw [Statement.forProperties, Table.executeAll_append, bind_eq_ok_iff] at executed
  rcases executed with ⟨middle, assigned, reset⟩
  rw [applyProperties_eq]
  refine (succeeds_alterIf serves keeps (Statement.assign_valid named) assigned).bind ?_
  intro _ after kept
  exact succeeds_alterIf serves kept (Statement.reset_valid named) reset

/-- A rename that the table allows is made, and its target goes on. -/
theorem succeeds_rename (valid : (Statement.rename identifier target).violations = [])
    (executed : table.execute (.rename identifier target) = .ok next) :
    (provider.rename contacts identifier target).Succeeds session fun result after =>
      result = target ∧ after.Keeps contacts.limit next := by
  have alters : (provider.bounded (contacts.alter
      { name := identifier, renameTo := some target })).Succeeds session fun _ after =>
        after.Keeps contacts.limit next := by
    apply Run.Succeeds.recover
    exact ContactsService.succeeds_alter serves keeps valid executed
  refine alters.bind ?_
  intro _ altered kept
  refine (Session.succeeds_log _ altered).bind ?_
  intro _ logged same
  exact .pure ⟨rfl, kept.of_client_eq same⟩

theorem succeeds_readBack (regular : platform.Regular)
    (found : table.find? identifier.name = some stored) :
    (provider.readBack contacts identifier).Succeeds session fun _ _ => True := by
  have shows : (provider.bounded (contacts.showByIdSafely identifier)).Succeeds session
      fun contact _ => contact.isSome = true := by
    apply Run.Succeeds.recover
    refine (ContactsService.succeeds_showByIdSafely serves keeps regular found).weaken ?_
    rintro contact after ⟨some, -⟩
    exact some
  have reads : (provider.readContact contacts identifier).Succeeds session
      fun state _ => state.isSome = true := by
    refine shows.bind ?_
    intro contact after some
    exact .pure (by simpa using some)
  refine reads.bind ?_
  intro state after some
  cases state with
  | none => cases some
  | some state => exact .pure trivial

/-- The properties of a contact that the table has are settled, and it is read back. -/
theorem succeeds_settle (regular : platform.Regular) (named : identifier.name ≠ "")
    (found : table.find? identifier.name = some stored) :
    (provider.settle contacts prior current desired renamed identifier).Succeeds session
      fun _ _ => True := by
  have applies : (provider.applyGuarded contacts prior current desired renamed identifier).Succeeds
      session fun _ after => after.Keeps contacts.limit (table.insert identifier.name
        (stored.changed (propertiesToSet current desired) (propertiesToUnset current desired))) := by
    apply Run.Succeeds.recover
    exact succeeds_applyProperties serves keeps named (Table.executeAll_forProperties found)
  refine applies.bind ?_
  intro _ applied kept
  refine (Session.succeeds_log _ applied).bind ?_
  intro _ logged same
  exact succeeds_readBack serves (kept.of_client_eq same) regular (Table.find?_insert_self _ _ _)

/-- A change of a contact that the table has is carried out if no other contact has the new name. -/
theorem succeeds_carryOut (regular : platform.Regular) (named : recorded.name ≠ "")
    (desiredNamed : desired.name ≠ "") (found : table.find? recorded.name = some stored)
    (free : current.name = desired.name ∨ table.find? desired.name = none) :
    (provider.carryOut contacts prior recorded current desired).Succeeds session
      fun _ _ => True := by
  rw [carryOut]
  split
  · exact succeeds_settle serves keeps regular named found
  · rename_i different
    have renames : table.execute (.rename recorded desired.identifier) =
        .ok ((table.erase recorded.name).insert desired.name stored) :=
      Table.execute_rename found (free.resolve_left different)
    refine (succeeds_rename serves keeps (Statement.rename_valid named desiredNamed) renames).bind ?_
    rintro _ after ⟨rfl, kept⟩
    exact succeeds_settle serves kept regular desiredNamed (Table.find?_insert_self _ _ _)

end serves

end ContactProvider

/--
An update of a contact that the table of a regular platform holds succeeds if the platform complies, and
the planned name is not empty and no other contact's.
-/
theorem Platform.update_succeeds (platform : Platform) (regular : platform.Regular)
    (config : ProviderConfig) {session : Session Site} {prior planned : Value}
    {current desired : ContactAttributes} {stored : Stored}
    (recordedAs : stateIdentifier prior = .ok current.identifier)
    (currently : ContactAttributes.ofState prior = .ok current)
    (desires : ContactAttributes.ofState planned = .ok desired)
    (found : session.client.table.find? current.name = some stored)
    (free : current.name = desired.name ∨ session.client.table.find? desired.name = none)
    (named : desired.name ≠ "") (complies : session.client.Complies config.limit?) :
    ∃ state after, ((platform.provider config).update contactResourceType prior planned).run session =
      (.ok state, after) := by
  have serves : ((platform.provider config).contacts (span "update" contactResourceType)).client =
      platform.client := rfl
  have recordedNamed := name_ne_of_stateIdentifier recordedAs
  have carries : ((platform.provider config).update contactResourceType prior planned).Succeeds
      session fun _ _ => True := by
    rw [update_eq_carryOut _ recordedAs currently desires]
    exact succeeds_carryOut serves ⟨rfl, complies⟩ regular recordedNamed named found free
  rcases carries with ⟨state, after, ran, -⟩
  exact ⟨state, after, ran⟩

/-! ### A regular platform -/

theorem Script.exists_showRowCreatedOn :
    ∃ time, Decoder.timestamp (.string showRowCreatedOn) = .ok time := by
  have read : (Decoder.timestamp (.string showRowCreatedOn)).isOk = true := by decide +kernel
  cases made : Decoder.timestamp (.string showRowCreatedOn) with
  | error error =>
      rw [made] at read
      cases read
  | ok time => exact ⟨time, rfl⟩

theorem Script.showRow_eq (name email : String) (comment : Option String) :
    showRow name email comment =
      [("comment", .ofOptional comment), ("created_on", .string showRowCreatedOn),
        ("email", .string email), ("name", .string name), ("owner", .string showRowOwner)] := by
  simp only [showRow, Entries.ofList, List.foldl_cons, List.foldl_nil, Entries.insert, reduceIte,
    String.reduceEq, String.reduceLT]

theorem Script.exists_decode_showRow (name email comment : String) :
    ∃ shown, ShowRow.decode (.object (showRow name email (some comment))) = .ok shown := by
  rcases exists_showRowCreatedOn with ⟨time, made⟩
  refine ⟨⟨time, name, email, some comment, some showRowOwner⟩, ?_⟩
  rw [showRow_eq]
  refine unit_bind_eq_ok_iff.2 ⟨?_, ?_⟩
  · simp [Record.visit, ShowRow.record, Record.and, Record.required, Record.optional, Record.field,
      Record.done, made, Decoder.optional, Value.ofOptional, Decoder.string, Except.map, bind,
      Except.bind]
  · simp [ShowRow.record, Record.and, Record.required, Record.optional, Record.field, Record.done,
      made, Decoder.optional, Value.ofOptional, Decoder.string, Except.map, bind, Except.bind,
      Entries.find?, pure, Except.pure]

namespace Platform

/-- A platform whose patterns are names, and whose rows show every comment. -/
def plain : Platform where
  isLike pattern name := pattern = name
  row name stored := Script.showRow name stored.email (some stored.comment)
  name_row name stored := by simp [Script.showRow, Entries.ofList, Entries.find?_insert]
  email_row name stored := by simp [Script.showRow, Entries.ofList, Entries.find?_insert]
  comment_row name stored := by
    simp [Script.showRow, Entries.ofList, Entries.find?_insert, Value.ofOptional, Value.text?]

/-- The plain platform leaves no update a reason to fail. -/
theorem plain_regular : plain.Regular where
  isLike_self _ := decide_eq_true rfl
  decodes name stored := Script.exists_decode_showRow name stored.email stored.comment

end Platform

end AlertContacts
