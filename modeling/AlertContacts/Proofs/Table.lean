import AlertContacts.Proofs.Entries
import AlertContacts.Proofs.UpdateOrder

/-!
# Tables of contacts

A platform keeps what it knows of the contacts in a table. `ALTER` renames a contact to a free name,
assigns what is given and clears a comment; a statement that cannot be done leaves the table as it is.
Two tables in which the same is found under every name are equal.

Which alterations an update makes depends on what differs between its two states, but whatever it is,
they make the former contact the planned one (`Table.executeAll_alterations`). A rename to a name that
another contact has cannot be done, so nothing is overwritten.
-/

namespace AlertContacts

open ContactProvider

/-! ### Tables -/

/-- What a platform keeps of a contact. -/
structure Stored where
  email : String
  /-- The comment, empty if there is none. -/
  comment : String
  deriving DecidableEq, Repr

/-- A contact with properties assigned and reset. -/
def Stored.changed (stored : Stored) (set : SetProperties) (unset : UnsetProperties) : Stored where
  email := set.email.getD stored.email
  comment := if unset.comment then "" else set.comment.getD stored.comment

/-- The contacts of an account by name. -/
structure Table where
  entries : Entries Stored
  ascending : entries.Ascending

namespace Table

def find? (table : Table) (name : String) : Option Stored :=
  table.entries.find? name

def insert (table : Table) (name : String) (stored : Stored) : Table :=
  ⟨table.entries.insert name stored, Entries.ascending_insert table.ascending name stored⟩

def erase (table : Table) (name : String) : Table :=
  ⟨table.entries.erase name, Entries.ascending_erase table.ascending name⟩

/-- What `ALTER` makes of the table, or why it cannot be done. -/
def alter (table : Table) (request : AlterContact) : Except ClientError Table :=
  match table.find? request.name.name with
  | none => if request.ifExists then .ok table else .error (.objectNotFound request.name.sql)
  | some stored =>
    let changed := stored.changed (request.set.getD {}) (request.unset.getD {})
    match request.renameTo with
    | none => .ok (table.insert request.name.name changed)
    | some target =>
      if (table.find? target.name).isSome then
        .error (.execution none ("object " ++ target.sql ++ " already exists"))
      else .ok ((table.erase request.name.name).insert target.name changed)

def execute (table : Table) : Statement → Except ClientError Table
  | .alter request => table.alter request
  | _ => .error (.execution none "unsupported statement")

def executeAll (table : Table) (statements : List Statement) : Except ClientError Table :=
  statements.foldlM execute table

variable {table first second : Table} {name target : String} {stored other : Stored}

/-- Tables in which the same is found under every name are equal. -/
theorem eq_of_find?_eq (same : ∀ name, first.find? name = second.find? name) : first = second := by
  rcases first with ⟨firstEntries, firstAscending⟩
  rcases second with ⟨secondEntries, secondAscending⟩
  have entries := Entries.eq_of_find?_eq firstAscending secondAscending same
  cases entries
  rfl

theorem find?_insert (table : Table) (name other : String) (stored : Stored) :
    (table.insert name stored).find? other =
      if name = other then some stored else table.find? other :=
  Entries.find?_insert name other stored table.entries

theorem find?_erase (table : Table) (name other : String) :
    (table.erase name).find? other = if name = other then none else table.find? other :=
  Entries.find?_erase name other table.entries

@[simp]
theorem find?_insert_self (table : Table) (name : String) (stored : Stored) :
    (table.insert name stored).find? name = some stored := by
  rw [find?_insert, if_pos rfl]

@[simp]
theorem insert_insert (table : Table) (name : String) (stored other : Stored) :
    (table.insert name stored).insert name other = table.insert name other := by
  apply eq_of_find?_eq
  intro searched
  rw [find?_insert, find?_insert, find?_insert]
  split
  · rfl
  · rfl

@[simp]
theorem insert_erase (table : Table) (name : String) (stored : Stored) :
    (table.erase name).insert name stored = table.insert name stored := by
  apply eq_of_find?_eq
  intro searched
  rw [find?_insert, find?_insert, find?_erase]
  split
  · rfl
  · rfl

theorem insert_of_find? (found : table.find? name = some stored) :
    table.insert name stored = table := by
  apply eq_of_find?_eq
  intro searched
  rw [find?_insert]
  split
  · rename_i same
    rw [← same, found]
  · rfl

theorem executeAll_append (table : Table) (statements others : List Statement) :
    table.executeAll (statements ++ others) =
      table.executeAll statements >>= fun middle => middle.executeAll others :=
  List.foldlM_append ..

end Table

/-- What a platform keeps of a contact with these attributes. -/
def ContactAttributes.stored (attributes : ContactAttributes) : Stored where
  email := attributes.email
  comment := attributes.comment.getD ""

@[simp]
theorem Stored.changed_nothing (stored : Stored) : stored.changed {} {} = stored := rfl

/-- Assigning and then resetting comes to doing both at once. -/
@[simp]
theorem Stored.changed_changed (stored : Stored) (set : SetProperties) (unset : UnsetProperties) :
    (stored.changed set {}).changed {} unset = stored.changed set unset := rfl

/-- A contact half way between two others: each property is that of the former or of the latter. -/
structure Stored.Between (stored former latter : Stored) : Prop where
  email : stored.email = former.email ∨ stored.email = latter.email
  comment : stored.comment = former.comment ∨ stored.comment = latter.comment

theorem Stored.Between.former (former latter : Stored) : former.Between former latter :=
  ⟨.inl rfl, .inl rfl⟩

namespace ContactAttributes

variable {stored : Stored} {current desired : ContactAttributes}

/--
Properties that differ and are wanted are set, and what is left is a comment to reset. It does not matter
how many of them have been settled before.
-/
theorem changed_of_between (between : stored.Between current.stored desired.stored) :
    stored.changed (propertiesToSet current desired) (propertiesToUnset current desired) =
      desired.stored := by
  rcases between with ⟨email, comment⟩
  rw [Stored.changed, ContactAttributes.stored, Stored.mk.injEq]
  constructor
  · by_cases same : current.email = desired.email
    · simpa [propertiesToSet, ContactAttributes.stored, same] using email
    · simp [propertiesToSet, same]
  · by_cases same : current.comment = desired.comment
    · simpa [propertiesToSet, propertiesToUnset, ContactAttributes.stored, same] using comment
    · cases wanted : desired.comment with
      | none => simp [propertiesToUnset, wanted, wanted ▸ same]
      | some comment => simp [propertiesToSet, propertiesToUnset, wanted, wanted ▸ same]

/-- What an update sets and unsets leads from the current properties to the desired ones. -/
theorem stored_changed (current desired : ContactAttributes) :
    current.stored.changed (propertiesToSet current desired) (propertiesToUnset current desired) =
      desired.stored :=
  changed_of_between (.former ..)

end ContactAttributes

/-! ### Alterations on a table -/

namespace Table

variable {table final : Table} {identifier target : Identifier} {set : SetProperties}
  {unset : UnsetProperties} {stored : Stored} {current desired : ContactAttributes}

theorem executeAll_singleton (table : Table) (statement : Statement) :
    table.executeAll [statement] = table.execute statement := by
  rw [executeAll, List.foldlM_cons]
  cases table.execute statement with
  | error error => rfl
  | ok table => rfl

/-- An assignment to a contact of the table changes what is assigned, and nothing else. -/
theorem execute_assign (found : table.find? identifier.name = some stored) :
    table.execute (.assign identifier set) =
      .ok (table.insert identifier.name (stored.changed set {})) := by
  simp [execute, Statement.assign, alter, found]

theorem execute_reset (found : table.find? identifier.name = some stored) :
    table.execute (.reset identifier unset) =
      .ok (table.insert identifier.name (stored.changed {} unset)) := by
  simp [execute, Statement.reset, alter, found]

/-- A statement that is left out would have changed nothing. -/
theorem executeAll_if {needed : Prop} [Decidable needed] {statement : Statement} {changed : Stored}
    (found : table.find? identifier.name = some stored)
    (executed : table.execute statement = .ok (table.insert identifier.name changed))
    (otherwise : ¬needed → changed = stored) :
    table.executeAll (if needed then [statement] else []) =
      .ok (table.insert identifier.name changed) := by
  split
  · rw [executeAll_singleton, executed]
  · rename_i left
    rw [otherwise left, insert_of_find? found]
    rfl

/-- The assignment of an update can always be done, and is left out if there is nothing to assign. -/
theorem executeAll_assigns (found : table.find? identifier.name = some stored) :
    table.executeAll (if set ≠ {} then [.assign identifier set] else []) =
      .ok (table.insert identifier.name (stored.changed set {})) := by
  apply executeAll_if found (execute_assign found)
  intro nothing
  simp [not_not.1 nothing]

theorem executeAll_resets (found : table.find? identifier.name = some stored) :
    table.executeAll (if unset ≠ {} then [.reset identifier unset] else []) =
      .ok (table.insert identifier.name (stored.changed {} unset)) := by
  apply executeAll_if found (execute_reset found)
  intro nothing
  simp [not_not.1 nothing]

/-- The property statements of an update come to one change of what is stored. -/
theorem executeAll_forProperties (found : table.find? identifier.name = some stored) :
    table.executeAll (Statement.forProperties identifier set unset) =
      .ok (table.insert identifier.name (stored.changed set unset)) := by
  rw [Statement.forProperties, executeAll_append, executeAll_assigns found]
  have assigned := table.find?_insert_self identifier.name (stored.changed set {})
  exact (executeAll_resets assigned).trans (by simp)

/-- A rename to a free name moves the contact with all that is stored of it. -/
theorem execute_rename (found : table.find? identifier.name = some stored)
    (free : table.find? target.name = none) :
    table.execute (.rename identifier target) =
      .ok ((table.erase identifier.name).insert target.name stored) := by
  simp [execute, Statement.rename, alter, found, free]

/-- A rename is done only where no contact has the new name. -/
theorem free_of_execute_rename (found : table.find? identifier.name = some stored)
    (executed : table.execute (.rename identifier target) = .ok final) :
    table.find? target.name = none := by
  simp only [execute, Statement.rename, alter, found] at executed
  split at executed
  · cases executed
  · rename_i free
    simpa using free

/-- Moving a contact to a free name leaves the other contacts as they are. -/
theorem find?_insert_erase_of_ne {name moved free : String} {kept : Stored}
    (isFree : moved = free ∨ table.find? free = none) (other : name ≠ moved)
    (found : table.find? name = some stored) :
    ((table.erase moved).insert free kept).find? name = some stored := by
  -- A free name is no other contact's name, and the moved contact is not asked for.
  have different : free ≠ name := by
    rintro rfl
    rcases isFree with same | absent
    · exact other same.symm
    · rw [found] at absent
      cases absent
  rw [find?_insert, if_neg different, find?_erase, if_neg other.symm, found]

/-- The alterations of an update make the former contact the planned one. -/
theorem executeAll_alterations (found : table.find? current.name = some current.stored)
    (executed : table.executeAll (alterations current.identifier current desired) = .ok final) :
    (current.name = desired.name ∨ table.find? desired.name = none) ∧
      final = (table.erase current.name).insert desired.name desired.stored := by
  rw [alterations_eq, executeAll_append, bind_eq_ok_iff] at executed
  rcases executed with ⟨middle, renamed, settled⟩
  by_cases same : current.name = desired.name
  · rw [renames, if_pos same] at renamed
    cases renamed
    rw [settledIdentifier, if_pos same, settles, executeAll_forProperties found,
      ContactAttributes.stored_changed] at settled
    cases settled
    refine ⟨.inl same, ?_⟩
    -- Taking the entry out first makes no difference, since it is put back under the same name.
    rw [← same, insert_erase]
    rfl
  · -- The statements behind the rename find the entry under its new name.
    rw [renames_of_ne same, executeAll_singleton] at renamed
    have free := free_of_execute_rename found renamed
    rw [execute_rename found free] at renamed
    cases renamed
    rw [settledIdentifier_of_ne same, settles,
      executeAll_forProperties (find?_insert_self _ _ _), ContactAttributes.stored_changed,
      insert_insert] at settled
    cases settled
    exact ⟨.inr free, rfl⟩

end Table

end AlertContacts
