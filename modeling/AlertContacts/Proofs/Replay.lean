import AlertContacts.Proofs.Invariance
import AlertContacts.Proofs.Platform

/-!
# Replaying what was sent

What a platform's table has become can be told from the exchanges: each accepted statement works on the
table, a refused one does not, and nothing else does (`Platform.replay_updateExchanges`). So what every
alteration of an update preserves holds of the table however far the update got
(`Attempted.replay_preserves`), and alterations that all succeeded were done one after the other
(`Attempted.executeAll_of_replay`).
-/

namespace AlertContacts

open Json ContactProvider

/-! ### Exchanges on a table -/

namespace Table

/-- What a statement that is accepted makes of a table, if it can be read and done. -/
def accepted (table : Table) (sql : String) : Option Table :=
  match Statement.ofSql? sql with
  | some (.list _) => some table
  | some statement => (table.execute statement).toOption
  | none => none

/-- What an exchange makes of a table: a statement that was refused leaves it as it is. -/
def exchanged (table : Table) (exchange : Exchange) : Option Table :=
  match exchange.reply.result with
  | .error _ => some table
  | .ok () => table.accepted exchange.sql

def replay (table : Table) (exchanges : List Exchange) : Option Table :=
  exchanges.foldlM exchanged table

variable {table next final : Table} {exchange : Exchange} {statement : Statement}
  {request : AlterContact}

theorem replay_nil (table : Table) : table.replay [] = some table := rfl

theorem replay_cons (table : Table) (exchange : Exchange) (exchanges : List Exchange) :
    table.replay (exchange :: exchanges) =
      (table.exchanged exchange).bind fun next => next.replay exchanges := by
  rw [replay, List.foldlM_cons]
  rfl

/-- Exchanges one behind the other work on the table in turn. -/
theorem replay_append (table : Table) (exchanges others : List Exchange) :
    table.replay (exchanges ++ others) =
      (table.replay exchanges).bind fun middle => middle.replay others := by
  rw [replay, List.foldlM_append]
  rfl

/-- A statement that was refused leaves the table as it is. -/
theorem exchanged_of_error {error : ClientError} (refused : exchange.reply.result = .error error) :
    table.exchanged exchange = some table := by
  rw [exchanged, refused]

/-- A statement that was accepted works on the table as its text says. -/
theorem exchanged_of_ok (accepts : exchange.reply.result = .ok ()) :
    table.exchanged exchange = table.accepted exchange.sql := by
  rw [exchanged, accepts]

/-- A listing leaves the table as it is. -/
theorem accepted_list (table : Table) (listing : ShowContacts) :
    table.accepted (Statement.list listing).sql = some table := by
  rw [accepted, Statement.ofSql?_sql rfl]

theorem exchanged_of_list {listing : ShowContacts}
    (text : exchange.sql = (Statement.list listing).sql) : table.exchanged exchange = some table := by
  cases answered : exchange.reply.result with
  | error error => exact exchanged_of_error answered
  | ok _ => rw [exchanged_of_ok answered, text, accepted_list]

/-- A listing behind the other statements changes nothing. -/
theorem replay_of_append_list {listing : ShowContacts} {exchanges : List Exchange}
    (text : exchange.sql = (Statement.list listing).sql)
    (replays : table.replay (exchanges ++ [exchange]) = some final) :
    table.replay exchanges = some final := by
  rw [replay_append, Option.bind_eq_some_iff] at replays
  rcases replays with ⟨middle, replays, listed⟩
  rw [replay_cons, exchanged_of_list text, Option.bind_some, replay_nil] at listed
  rwa [listed] at replays

/-- An alteration that was accepted was executed on the table. -/
theorem execute_of_exchanged (valid : (Statement.alter request).violations = [])
    (text : exchange.sql = (Statement.alter request).sql)
    (accepts : exchange.reply.result = .ok ()) (made : table.exchanged exchange = some next) :
    table.execute (.alter request) = .ok next := by
  rw [exchanged_of_ok accepts, text, accepted, Statement.ofSql?_sql valid] at made
  cases executed : table.execute (.alter request) with
  | error error => simp [executed, Except.toOption] at made
  | ok other => simpa [executed, Except.toOption] using made

/-- An alteration that was sent was either done or made no difference. -/
theorem eq_or_execute_of_exchanged (valid : (Statement.alter request).violations = [])
    (text : exchange.sql = (Statement.alter request).sql)
    (made : table.exchanged exchange = some next) :
    next = table ∨ table.execute (.alter request) = .ok next := by
  cases answered : exchange.reply.result with
  | error error =>
      rw [exchanged_of_error answered, Option.some.injEq] at made
      exact .inl made.symm
  | ok _ => exact .inr (execute_of_exchanged valid text answered made)

end Table

/-! ### Alterations that were attempted -/

namespace Attempted

variable {limit : Option Nat} {statements : List Statement} {sent : List Exchange} {succeeded : Bool}
  {table final : Table}

/-- What each alteration preserves, the alterations that are sent preserve. -/
theorem replay_preserves {property : Table → Prop}
    (attempted : Attempted limit statements sent succeeded)
    (alters : ∀ statement ∈ statements, ∃ request, statement = .alter request)
    (step : ∀ statement ∈ statements, ∀ table next, property table →
      table.execute statement = .ok next → property next)
    (holds : property table) (replays : table.replay sent = some final) : property final := by
  induction attempted generalizing table with
  | all =>
      cases replays
      exact holds
  | refused _ =>
      cases replays
      exact holds
  | @failed statement statements exchange valid text _ =>
      rcases alters statement (List.mem_cons_self ..) with ⟨request, rfl⟩
      rw [Table.replay_cons, Option.bind_eq_some_iff] at replays
      rcases replays with ⟨next, made, ends⟩
      cases ends
      rcases Table.eq_or_execute_of_exchanged valid text made with rfl | executed
      · exact holds
      · exact step _ (List.mem_cons_self ..) table _ holds executed
  | @next statement statements exchange sent _ valid text _ _ ih =>
      rcases alters statement (List.mem_cons_self ..) with ⟨request, rfl⟩
      rw [Table.replay_cons, Option.bind_eq_some_iff] at replays
      rcases replays with ⟨next, made, replays⟩
      refine ih (fun other member => alters other (List.mem_cons_of_mem _ member))
        (fun other member => step other (List.mem_cons_of_mem _ member)) ?_ replays
      rcases Table.eq_or_execute_of_exchanged valid text made with rfl | executed
      · exact holds
      · exact step _ (List.mem_cons_self ..) table next holds executed

/-- Alterations that all succeeded are what the table went through. -/
theorem executeAll_of_replay (attempted : Attempted limit statements sent true)
    (alters : ∀ statement ∈ statements, ∃ request, statement = .alter request)
    (replays : table.replay sent = some final) : table.executeAll statements = .ok final := by
  generalize result : true = succeeded at attempted
  induction attempted generalizing table with
  | all =>
      cases replays
      rfl
  | refused _ => cases result
  | failed _ _ _ => cases result
  | @next statement statements exchange sent _ valid text succeeds _ ih =>
      rcases alters statement (List.mem_cons_self ..) with ⟨request, rfl⟩
      rw [Table.replay_cons, Option.bind_eq_some_iff] at replays
      rcases replays with ⟨next, made, replays⟩
      have executed := Table.execute_of_exchanged valid text succeeds.1 made
      rw [Table.executeAll, List.foldlM_cons, executed]
      exact ih (fun other member => alters other (List.mem_cons_of_mem _ member)) replays result

end Attempted

/-! ### What a platform is left with -/

/-- An answer is an error and leaves the table as it is, or it is what there was to answer. -/
theorem Site.exchanged_answer {α : Type} {site : Site} {sql : String}
    {outcome : Except ClientError (α × Table)}
    (does : ∀ result table, outcome = .ok (result, table) → site.table.accepted sql = some table) :
    site.table.exchanged ⟨sql, (site.answer outcome).1.withoutRows⟩ =
      some (site.answer outcome).2.table := by
  rw [answer]
  cases refused : (site.deliveries.headD {}).refusal with
  | some error => rfl
  | none =>
      cases outcome with
      | error error => rfl
      | ok made => exact does made.1 made.2 rfl

/-- The exchanges lead from a table to the one that a site has. -/
def Replays (start : Table) (recorded : Recorded Site) : Prop :=
  start.replay recorded.exchanges = some recorded.inner.table

/-- An exchange that leads to the table of the site goes behind the others. -/
theorem Replays.append {start : Table} {recorded : Recorded Site} {after : Site} {exchange : Exchange}
    (holds : Replays start recorded)
    (made : recorded.inner.table.exchanged exchange = some after.table) :
    Replays start ⟨after, recorded.exchanges ++ [exchange]⟩ := by
  rw [Replays, Table.replay_append, holds, Option.bind_some, Table.replay_cons, made]
  rfl

namespace Platform

/-- A statement without rows makes of the table what its exchange says. -/
theorem exchanged_exec (sql : String) (site : Site) :
    site.table.exchanged ⟨sql, (exec sql site).1.withoutRows⟩ = some (exec sql site).2.table := by
  apply Site.exchanged_answer
  intro _ next done
  split at done
  · rename_i statement read
    cases executed : site.table.execute statement with
    | error error => simp [executed, Except.map] at done
    | ok other =>
        have same : other = next := by simpa [executed, Except.map] using done
        rw [Table.accepted, read]
        cases statement with
        | list listing => cases executed
        | _ => simp [executed, same, Except.toOption]
  · cases done

theorem exchanged_query (platform : Platform) (sql : String) (site : Site) :
    site.table.exchanged ⟨sql, (platform.query sql site).1.withoutRows⟩ =
      some (platform.query sql site).2.table := by
  apply Site.exchanged_answer
  intro rows next done
  split at done
  · rename_i listing read
    cases done
    rw [Table.accepted, read]
  · cases done
  · cases done

variable (platform : Platform)

/-- Whatever the platform is sent, its exchanges lead to the table that it has. -/
theorem preserves_replays (start : Table) : platform.client.recording.Preserves (Replays start) where
  exec sql _ holds := holds.append (exchanged_exec sql _)
  query sql _ holds := holds.append (platform.exchanged_query sql _)

/-- The exchanges of an update lead from the table before it to the table behind it. -/
theorem replay_updateExchanges (config : ProviderConfig) (resourceType : String)
    (prior planned : Value) (session : Session Site) :
    session.client.table.replay
        ((platform.provider config).updateExchanges resourceType prior planned session) =
      some (((platform.provider config).update resourceType prior planned).run
        session).2.client.table := by
  have preserves : ((platform.provider config).recording.update resourceType prior planned).Preserves
      (Replays session.client.table) :=
    preserves_update (platform.preserves_replays session.client.table) resourceType prior planned
  have mirrored := (platform.provider config).mirrors_update resourceType prior planned
    session.recording
  have same : session.recording.forget = session := rfl
  rw [same] at mirrored
  rw [mirrored]
  exact preserves session.recording rfl

end Platform

end AlertContacts
