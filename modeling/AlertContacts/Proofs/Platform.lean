import AlertContacts.Proofs.Execution
import AlertContacts.Proofs.Lookup
import AlertContacts.Proofs.Reading
import AlertContacts.Proofs.Table

/-!
# A platform with a table

A platform works on its table as the statements say that it receives, and it reads each of them from its
text alone: `ALTER` changes the table, and `SHOW` lists a row for each contact whose name is like the
pattern. Which names are like a pattern, and what else is in a row, is up to the platform. It may refuse
any statement, which leaves the table as it is, and it may take any time for an answer.

What a client of the platform executes is what the table goes through
(`Platform.executeAll_of_executes`), and what it finds are the contacts of the table
(`Platform.exists_of_finds`).
-/

namespace AlertContacts

open Json

/-! ### The platform -/

/-- How a platform treats a statement that it receives. -/
structure Delivery where
  /-- Why the statement is refused, if it is. -/
  refusal : Option ClientError := none
  /-- How long the answer takes, in milliseconds. -/
  elapsed : Nat := 0

/-- A table, and how the statements to come are treated; any others are accepted at once. -/
structure Site where
  table : Table
  deliveries : List Delivery := []

/-- The answer to a statement, which works on the table unless it is refused. -/
def Site.answer {α : Type} (site : Site) (outcome : Except ClientError (α × Table)) :
    Reply α × Site :=
  let delivery := site.deliveries.headD {}
  match delivery.refusal.elim outcome .error with
  | .ok (result, table) => (⟨.ok result, delivery.elapsed⟩, ⟨table, site.deliveries.tail⟩)
  | .error error =>
    (⟨.error error, delivery.elapsed⟩, { site with deliveries := site.deliveries.tail })

/-- An answer of success is one to a statement that worked on the table. -/
theorem Site.answer_eq_ok {α : Type} {site after : Site} {outcome : Except ClientError (α × Table)}
    {reply : Reply α} {result : α} (answers : site.answer outcome = (reply, after))
    (succeeds : reply.result = .ok result) : outcome = .ok (result, after.table) := by
  rw [answer] at answers
  cases refused : (site.deliveries.headD {}).refusal with
  | some error =>
      simp only [refused, Option.elim_some] at answers
      cases answers
      cases succeeds
  | none =>
      simp only [refused, Option.elim_none] at answers
      cases outcome with
      | error error =>
          cases answers
          cases succeeds
      | ok made =>
          cases answers
          cases succeeds
          rfl

/-- What a platform is free to decide: which names are like a pattern, and what its rows contain. -/
structure Platform where
  isLike : (pattern name : String) → Bool
  row : String → Stored → Row
  name_row (name : String) (stored : Stored) : (row name stored).find? "name" = some (.string name)
  email_row (name : String) (stored : Stored) :
    (row name stored).find? "email" = some (.string stored.email)
  /-- A contact without a comment may be listed with an empty one, with null or without the column. -/
  comment_row (name : String) (stored : Stored) :
    (((row name stored).find? "comment").bind Value.text?).getD "" = stored.comment

namespace Platform

variable (platform : Platform)

def listed (listing : ShowContacts) (table : Table) : List Row :=
  (table.entries.filter fun entry => listing.like.all fun filter =>
    platform.isLike filter.pattern entry.1).map fun entry => platform.row entry.1 entry.2

def exec (sql : String) (site : Site) : Reply Unit × Site :=
  site.answer <|
    match Statement.ofSql? sql with
    | some statement => (site.table.execute statement).map ((), ·)
    | none => .error (.execution none "syntax error")

def query (sql : String) (site : Site) : Reply (List Row) × Site :=
  site.answer <|
    match Statement.ofSql? sql with
    | some (.list listing) => .ok (platform.listed listing site.table, site.table)
    | some _ => .error (.execution none "unsupported statement")
    | none => .error (.execution none "syntax error")

def client : Client Site where
  exec := exec
  query := platform.query

def provider (config : ProviderConfig) : ContactProvider Site where
  client := platform.client
  config := config

variable {platform} {site before after : Site} {statement : Statement} {statements : List Statement}

/-- The platform reads a statement from its text, and works on its table as the statement says. -/
theorem exec_sql (valid : statement.violations = []) (site : Site) :
    platform.client.exec statement.sql site =
      site.answer ((site.table.execute statement).map ((), ·)) := by
  change exec _ _ = _
  rw [exec, Statement.ofSql?_sql valid]

/-- The platform lists what the pattern of a listing asks for, and keeps its table. -/
theorem query_sql (listing : ShowContacts) (site : Site) :
    platform.client.query (Statement.list listing).sql site =
      site.answer (.ok (platform.listed listing site.table, site.table)) := by
  change platform.query _ _ = _
  rw [query, Statement.ofSql?_sql rfl]

/-- A statement that is answered with success has been executed on the table. -/
theorem execute_of_exec {reply : Reply Unit} (valid : statement.violations = [])
    (answers : platform.client.exec statement.sql site = (reply, after))
    (succeeds : reply.result = .ok ()) : site.table.execute statement = .ok after.table := by
  rw [exec_sql valid] at answers
  have outcome := Site.answer_eq_ok answers succeeds
  cases executed : site.table.execute statement with
  | error error => simp [executed, Except.map] at outcome
  | ok table => simpa [executed, Except.map] using outcome

/-- Statements that the client executes are what the table goes through, in their order. -/
theorem executeAll_of_executes (executes : platform.client.Executes statements before after) :
    before.table.executeAll statements = .ok after.table := by
  induction executes with
  | done => rfl
  | next valid answers succeeds _ ih =>
      rw [Table.executeAll, List.foldlM_cons, execute_of_exec valid answers succeeds]
      exact ih

/-- Rows that come are the listing of the table, which stays as it is. -/
theorem listed_of_lists {listing : ShowContacts} {rows : List Row}
    (lists : platform.client.Lists (.list listing) rows before after) :
    rows = platform.listed listing before.table ∧ after.table = before.table := by
  rcases lists with ⟨reply, answers, succeeds⟩
  rw [query_sql] at answers
  have outcome := Site.answer_eq_ok answers succeeds
  rw [Except.ok.injEq, Prod.mk.injEq] at outcome
  exact ⟨outcome.1.symm, outcome.2.symm⟩

/-- Each row that is listed is that of a contact of the table. -/
theorem exists_of_mem_listed {listing : ShowContacts} {table : Table} {row : Row}
    (member : row ∈ platform.listed listing table) :
    ∃ name stored, table.find? name = some stored ∧ platform.row name stored = row := by
  rcases List.mem_map.1 member with ⟨⟨name, stored⟩, kept, rfl⟩
  have mentioned := List.mem_of_mem_filter kept
  exact ⟨name, stored, Entries.find?_of_mem table.ascending mentioned, rfl⟩

/-- A contact of the table is listed if its name is like the pattern. -/
theorem row_mem_listed (platform : Platform) {table : Table} {pattern name : String}
    {stored : Stored} (likes : platform.isLike pattern name = true)
    (found : table.find? name = some stored) :
    platform.row name stored ∈ platform.listed { like := some ⟨pattern⟩ } table := by
  have mentioned : (name, stored) ∈ table.entries := Entries.mem_of_find?_eq_some found
  exact List.mem_map.2 ⟨(name, stored), List.mem_filter.2 ⟨mentioned, likes⟩, rfl⟩

/-- What a lookup finds is what the table has under exactly this name. -/
theorem exists_of_finds {identifier : Identifier} {contact : Contact}
    (finds : platform.client.Finds identifier contact before after) :
    after.table = before.table ∧ contact.name = identifier.name ∧
      before.table.find? identifier.name = some ⟨contact.email, contact.comment⟩ := by
  rcases finds with @⟨_, _, shown, _, _, lists, member, decodes, named⟩
  rcases listed_of_lists lists with ⟨rfl, unchanged⟩
  rcases exists_of_mem_listed member with ⟨name, stored, found, rfl⟩
  have shows := ShowRow.foundIn_of_decode decodes
  have nameColumn := shows.name
  have emailColumn := shows.email
  rw [platform.name_row, Option.some.injEq, Value.string.injEq] at nameColumn
  rw [platform.email_row, Option.some.injEq, Value.string.injEq] at emailColumn
  have comment := platform.comment_row name stored
  rw [shows.text?_comment] at comment
  refine ⟨unchanged, named, ?_⟩
  rw [← named, ← nameColumn, found]
  rcases stored with ⟨email, storedComment⟩
  cases emailColumn
  cases comment
  rfl

end Platform

end AlertContacts
