import AlertContacts.Client.Script
import AlertContacts.Proofs.Lookup
import AlertContacts.Proofs.Record

/-!
# Lookups of exactly a name

What a lookup by name makes of each answer. `Identifier.LooksUp` has a case for each way in which a lookup
ends: the client fails, a row does not decode, a row shows a contact of exactly the name, or no row does.
Every answer falls under one case alone (`Identifier.looksUp_iff`).

All of the rows have to decode, also those behind the contact that is found. Rows of other names, which the
pattern matches as well, make no difference, and of several rows of the name the first one counts.
-/

namespace AlertContacts

open Json

variable {σ : Type}

/-! ### Rows -/

def Row.IsReadable (row : Row) : Prop :=
  ∃ shown, ShowRow.decode (.object row) = .ok shown

/-- A row shows a contact, and its name is another one. -/
def Row.ShowsOther (identifier : Identifier) (row : Row) : Prop :=
  ∃ shown, ShowRow.decode (.object row) = .ok shown ∧ shown.name ≠ identifier.name

/-- What a lookup comes to, for each answer of the client. -/
inductive Identifier.LooksUp (identifier : Identifier) :
    Except ClientError (List Row) → Except ServiceError Contact → Prop where
  | refused {error : ClientError} : LooksUp identifier (.error error) (.error (.client error))
  | unreadable {before after : List Row} {row : Row} {error : DecodeError}
      (readable : ∀ earlier ∈ before, Row.IsReadable earlier)
      (fails : ShowRow.decode (.object row) = .error error) :
      LooksUp identifier (.ok (before ++ row :: after)) (.error (.rowMapping error))
  | found {before after : List Row} {row : Row} {shown : ShowRow}
      (others : ∀ earlier ∈ before, Row.ShowsOther identifier earlier)
      (decodes : ShowRow.decode (.object row) = .ok shown) (named : shown.name = identifier.name)
      (readable : ∀ later ∈ after, Row.IsReadable later) :
      LooksUp identifier (.ok (before ++ row :: after)) (.ok (Contact.ofRow shown))
  | missing {rows : List Row} (others : ∀ row ∈ rows, Row.ShowsOther identifier row) :
      LooksUp identifier (.ok rows) (.error (.objectNotFound identifier.sql))

namespace Contact

theorem ofRows_cons (row : Row) (rest : List Row) :
    ofRows (row :: rest) = (ShowRow.decode (.object row)).mapError .rowMapping >>= fun shown =>
      (ofRows rest).map (ofRow shown :: ·) := by
  rw [ofRows, ofRows, List.mapM_cons]
  cases ShowRow.decode (.object row) with
  | error error => rfl
  | ok shown =>
      cases rest.mapM fun row => ShowRow.decode (.object row) with
      | error error => rfl
      | ok others => rfl

/-- Rows are read together exactly if each of them can be read. -/
theorem exists_ofRows_iff {rows : List Row} :
    (∃ contacts, ofRows rows = .ok contacts) ↔ ∀ row ∈ rows, Row.IsReadable row := by
  refine Iff.trans ?_ exists_mapM_iff
  rw [ofRows]
  cases rows.mapM fun row => ShowRow.decode (.object row) with
  | error error => simp [Except.mapError, Except.map]
  | ok shown => simp [Except.mapError, Except.map]

/-- Rows fail as a whole by the first of them that does not decode. -/
theorem ofRows_eq_error_iff {rows : List Row} {error : ServiceError} :
    ofRows rows = .error error ↔
      ∃ before row after cause, rows = before ++ row :: after ∧
        (∀ earlier ∈ before, Row.IsReadable earlier) ∧
          ShowRow.decode (.object row) = .error cause ∧ error = .rowMapping cause := by
  have fails : ofRows rows = .error error ↔ ∃ cause,
      (rows.mapM fun row => ShowRow.decode (.object row)) = .error cause ∧
        error = .rowMapping cause := by
    rw [ofRows]
    cases rows.mapM fun row => ShowRow.decode (.object row) with
    | error cause => simp [Except.mapError, Except.map, eq_comm]
    | ok shown => simp [Except.mapError, Except.map]
  simp only [fails, mapM_eq_error_iff]
  constructor
  · rintro ⟨cause, ⟨before, row, after, parts, readable, decodes⟩, same⟩
    exact ⟨before, row, after, cause, parts, readable, decodes, same⟩
  · rintro ⟨before, row, after, cause, parts, readable, decodes, same⟩
    exact ⟨cause, ⟨before, row, after, parts, readable, decodes⟩, same⟩

end Contact

namespace Identifier

variable {identifier : Identifier} {row : Row} {rest : List Row} {shown : ShowRow}

/-- A first row that does not decode fails the lookup. -/
theorem among_cons_of_error {error : DecodeError}
    (fails : ShowRow.decode (.object row) = .error error) :
    identifier.among (row :: rest) = .error (.rowMapping error) := by
  rw [among, Contact.ofRows_cons, fails]
  rfl

/-- A first row of the name is what is found, provided that the rows behind it decode. -/
theorem among_cons_of_name (decodes : ShowRow.decode (.object row) = .ok shown)
    (named : shown.name = identifier.name) :
    identifier.among (row :: rest) = (Contact.ofRows rest).map fun _ => Contact.ofRow shown := by
  have same : (Contact.ofRow shown).name = identifier.name := named
  rw [among, Contact.ofRows_cons, decodes]
  cases Contact.ofRows rest with
  | error error => rfl
  | ok contacts =>
      change identifier.select (Contact.ofRow shown :: contacts) = .ok (Contact.ofRow shown)
      rw [select, List.find?_cons_of_pos (by simpa using same)]

/-- A first row of another name makes no difference. -/
theorem among_cons_of_other (other : Row.ShowsOther identifier row) :
    identifier.among (row :: rest) = identifier.among rest := by
  rcases other with ⟨shown, decodes, different⟩
  have different : ¬(Contact.ofRow shown).name = identifier.name := different
  rw [among, among, Contact.ofRows_cons, decodes]
  cases Contact.ofRows rest with
  | error error => rfl
  | ok contacts =>
      change identifier.select (Contact.ofRow shown :: contacts) = identifier.select contacts
      rw [select, select, List.find?_cons_of_neg (by simpa using different)]

/-- However many rows of other names stand in front, they make no difference. -/
theorem among_append_of_others {before : List Row}
    (others : ∀ earlier ∈ before, Row.ShowsOther identifier earlier) (rest : List Row) :
    identifier.among (before ++ rest) = identifier.among rest := by
  induction before with
  | nil => rfl
  | cons first before ih =>
      rcases List.forall_mem_cons.1 others with ⟨other, others⟩
      rw [List.cons_append, among_cons_of_other other, ih others]

/-- The cases allow a row of another name in front. -/
theorem LooksUp.cons_other {outcome : Except ServiceError Contact}
    (looksUp : identifier.LooksUp (.ok rest) outcome) (other : Row.ShowsOther identifier row) :
    identifier.LooksUp (.ok (row :: rest)) outcome := by
  cases looksUp with
  | unreadable readable fails =>
      rw [← List.cons_append]
      rcases other with ⟨shown, decodes, -⟩
      exact .unreadable (List.forall_mem_cons.2 ⟨⟨shown, decodes⟩, readable⟩) fails
  | found others decodes named readable =>
      rw [← List.cons_append]
      exact .found (List.forall_mem_cons.2 ⟨other, others⟩) decodes named readable
  | missing others => exact .missing (List.forall_mem_cons.2 ⟨other, others⟩)

/-- Every list of rows falls under a case. -/
theorem looksUp_among (identifier : Identifier) (rows : List Row) :
    identifier.LooksUp (.ok rows) (identifier.among rows) := by
  induction rows with
  | nil => exact .missing (by simp)
  | cons row rest ih =>
      cases decodes : ShowRow.decode (.object row) with
      | error error =>
          rw [among_cons_of_error decodes]
          exact .unreadable (List.forall_mem_nil _) decodes
      | ok shown =>
          by_cases named : shown.name = identifier.name
          · rw [among_cons_of_name decodes named]
            cases made : Contact.ofRows rest with
            | ok contacts =>
                exact .found (List.forall_mem_nil _) decodes named (Contact.exists_ofRows_iff.1 ⟨_, made⟩)
            | error error =>
                rcases Contact.ofRows_eq_error_iff.1 made with
                  ⟨before, later, after, cause, rfl, readable, fails, rfl⟩
                exact .unreadable (List.forall_mem_cons.2 ⟨⟨shown, decodes⟩, readable⟩) fails
          · have other : Row.ShowsOther identifier row := ⟨shown, decodes, named⟩
            rw [among_cons_of_other other]
            exact ih.cons_other other

/-- The cases exclude each other: what a lookup comes to is fixed by the answer. -/
theorem looksUp_iff {answer : Except ClientError (List Row)} {outcome : Except ServiceError Contact} :
    identifier.LooksUp answer outcome ↔ outcome = answer.mapError .client >>= identifier.among := by
  constructor
  · intro looksUp
    cases looksUp with
    | refused => rfl
    | @unreadable before after row error readable fails =>
        have failed := Contact.ofRows_eq_error_iff.2
          ⟨before, row, after, error, rfl, readable, fails, rfl⟩
        change _ = Contact.ofRows _ >>= identifier.select
        rw [failed]
        rfl
    | found others decodes named readable =>
        rcases Contact.exists_ofRows_iff.2 readable with ⟨contacts, made⟩
        change _ = identifier.among _
        rw [among_append_of_others others, among_cons_of_name decodes named, made]
        rfl
    | @missing rows others =>
        have passed := among_append_of_others others []
        rw [List.append_nil] at passed
        exact passed.symm
  · rintro rfl
    cases answer with
    | error error => exact .refused
    | ok rows => exact looksUp_among identifier rows

/-- What a lookup finds has exactly the name that was looked up. -/
theorem LooksUp.name_eq {answer : Except ClientError (List Row)} {contact : Contact}
    (looksUp : identifier.LooksUp answer (.ok contact)) : contact.name = identifier.name := by
  cases looksUp with
  | found _ _ named _ => exact named

end Identifier

namespace ContactsService

/-- A lookup that may find nothing: an error that tells so is none. -/
def safely (outcome : Except ServiceError Contact) : Except ServiceError (Option Contact) :=
  match outcome with
  | .ok contact => .ok (some contact)
  | .error error => if error.isObjectNotFound then .ok none else .error error

/--
A lookup comes to what the rules make of the answer, unless the answer is late. A contact that it finds has
exactly the name, and the safe lookup differs in the errors that tell of a missing contact only.
-/
theorem showById_exact (service : ContactsService σ) (identifier : Identifier)
    (session : Session σ) :
    let reply := (service.client.query (lookup identifier).sql session.client).1
    ∃ outcome, (∀ other, identifier.LooksUp reply.result other ↔ other = outcome) ∧
      (∀ contact, outcome = .ok contact → contact.name = identifier.name) ∧
      ((service.showById identifier).run session).1 =
        (if service.isOverdue reply.elapsed then .error .interrupted
        else outcome.mapError .failed) ∧
      ((service.showByIdSafely identifier).run session).1 =
        (if service.isOverdue reply.elapsed then .error .interrupted
        else (safely outcome).mapError .failed) := by
  intro reply
  have shows : ((service.showById identifier).run session).1 =
      if service.isOverdue reply.elapsed then .error .interrupted
      else (reply.result.mapError .client >>= identifier.among).mapError .failed := by
    rw [outcome_showById, lookedUp, accept_bind]
  refine ⟨reply.result.mapError .client >>= identifier.among, ?_, ?_, shows, ?_⟩
  · intro other
    exact Identifier.looksUp_iff
  · intro contact found
    exact (Identifier.looksUp_iff.2 found.symm).name_eq
  · rw [outcome_showByIdSafely, ← outcome_showById, shows]
    cases service.isOverdue reply.elapsed with
    | true => rfl
    | false =>
        cases reply.result.mapError .client >>= identifier.among with
        | ok contact => rfl
        | error error =>
            cases missing : error.isObjectNotFound with
            | true => simp [safely, Failure.isObjectNotFound, Except.mapError, missing]
            | false => simp [safely, Failure.isObjectNotFound, Except.mapError, missing]

/-- Rows that the pattern `TEAM_A` matches, if case does not count. -/
def wildcardRows : List Row :=
  [Script.showRow "TEAMXA" "wrong@example.com" none, Script.showRow "team_a" "lower@example.com" none,
    Script.showRow "TEAM_A" "right@example.com" none, Script.showRow "TEAM_A" "again@example.com" none]

theorem showById_exact_wildcards :
    ∃ contact, ((ContactsService.showById ⟨Script.client, false, none, []⟩ ⟨"TEAM_A"⟩).run
        ⟨{ queryAnswers := [.ok wildcardRows] }, []⟩).1 = .ok contact ∧
      contact.name = "TEAM_A" ∧ contact.email = "right@example.com" := by
  rcases showById_exact ⟨Script.client, false, none, []⟩ ⟨"TEAM_A"⟩
    ⟨{ queryAnswers := [.ok wildcardRows] }, []⟩ with ⟨outcome, looksUp, named, shows, -⟩
  have found : outcome = .ok _ := Identifier.looksUp_iff.1 ((looksUp outcome).2 rfl)
  exact ⟨_, shows.trans (by rw [found]; rfl), named _ found, rfl⟩

end ContactsService

end AlertContacts
