import AlertContacts.Proofs.ExactLookup
import AlertContacts.Proofs.Reading
import AlertContacts.Proofs.ShownContact
import Mathlib.Data.List.Infix
import Mathlib.Data.List.Nodup

/-!
# Lookups by pattern

A lookup asks for the rows whose name matches a pattern, and the pattern is the bare name of the contact:
neither a `%` nor a `_` in it is escaped. What the platform makes of a pattern is `Like.Matches`, which
leaves open which characters the platform takes for alike, so that case may count or not.

A name always matches itself, so the row of the contact is among the rows, and all other rows show contacts
of other names. A lookup therefore finds the contact of exactly the name in a table, and misses it exactly
where the table has none (`ContactsService.showById_of_listsMatching`). `Listing.client` is a client that answers in
this way.
-/

namespace AlertContacts

open Json

variable {σ : Type}

/-! ### Patterns -/

namespace Like

/--
A name matches a pattern: `%` stands for any run of characters, `_` for any one character, and every other
character for those that it is alike. No character takes its meaning from another one.
-/
inductive Matches (alike : Char → Char → Prop) : List Char → List Char → Prop where
  | done : Matches alike [] []
  | run {pattern name : List Char} (skipped : List Char) (rest : Matches alike pattern name) :
      Matches alike ('%' :: pattern) (skipped ++ name)
  | any {pattern name : List Char} (char : Char) (rest : Matches alike pattern name) :
      Matches alike ('_' :: pattern) (char :: name)
  | same {pattern name : List Char} {written char : Char} (plain : written ≠ '%' ∧ written ≠ '_')
      (same : alike written char) (rest : Matches alike pattern name) :
      Matches alike (written :: pattern) (char :: name)

/-- A name is matched by itself, wildcards included. -/
theorem matches_self {alike : Char → Char → Prop} (reflexive : ∀ char, alike char char)
    (name : List Char) : Matches alike name name := by
  induction name with
  | nil => exact .done
  | cons char name ih =>
      by_cases percent : char = '%'
      · -- Of all the runs that it stands for, the wildcard stands for itself alone.
        rw [percent]
        exact .run ['%'] ih
      · by_cases underscore : char = '_'
        · rw [underscore]
          exact .any '_' ih
        · exact .same ⟨percent, underscore⟩ (reflexive char) ih

/-- Whether a name matches a pattern. -/
def isMatch (alike : Char → Char → Bool) : List Char → List Char → Bool
  | [], name => name.isEmpty
  | written :: pattern, name =>
    if written = '%' then name.tails.any (isMatch alike pattern)
    else match name with
      | [] => false
      | char :: name => (written = '_' || alike written char) && isMatch alike pattern name

/-- The matcher finds exactly the names that match. -/
theorem isMatch_iff {alike : Char → Char → Bool} {pattern name : List Char} :
    isMatch alike pattern name = true ↔
      Matches (fun written char => alike written char = true) pattern name := by
  constructor
  · intro matched
    induction pattern generalizing name with
    | nil =>
        rw [List.isEmpty_iff.1 matched]
        exact .done
    | cons written pattern ih =>
        unfold isMatch at matched
        split at matched
        · rename_i percent
          rcases List.any_eq_true.1 matched with ⟨rest, suffix, remaining⟩
          rcases (List.mem_tails _ _).1 suffix with ⟨skipped, rfl⟩
          rw [percent]
          exact .run skipped (ih remaining)
        · rename_i percent
          cases name with
          | nil => cases matched
          | cons char name =>
              simp only [Bool.and_eq_true, Bool.or_eq_true, decide_eq_true_eq] at matched
              rcases matched with ⟨underscore | same, matched⟩
              · rw [underscore]
                exact .any char (ih matched)
              · by_cases underscore : written = '_'
                · rw [underscore]
                  exact .any char (ih matched)
                · exact .same ⟨percent, underscore⟩ same (ih matched)
  · intro matched
    induction matched with
    | done => rfl
    | run skipped _ ih =>
        simp only [isMatch, if_true, List.any_eq_true]
        exact ⟨_, (List.mem_tails _ _).2 (List.suffix_append ..), ih⟩
    | any char _ ih => simpa [isMatch] using ih
    | same plain same _ ih => simp [isMatch, plain.1, same, ih]

end Like

/-! ### What a platform lists -/

/-- A row shows a contact. -/
def Row.Shows (contact : Contact) (row : Row) : Prop :=
  ∃ shown, ShowRow.decode (.object row) = .ok shown ∧ Contact.ofRow shown = contact

/--
A client answers in time, and it answers a request for the contacts like a pattern with rows, in any order,
of exactly the contacts of a table whose name matches the pattern.
-/
structure Client.ListsMatching (client : Client σ) (limit : Option Nat) (alike : Char → Char → Prop)
    (contacts : List Contact) (state : σ) : Prop where
  inTime : ∀ sql, ∀ bound ∈ limit, (client.query sql state).1.elapsed ≤ bound
  rows : ∀ sql pattern, Statement.ofSql? sql = some (.list { like := some ⟨pattern⟩ }) →
    ∃ rows, (client.query sql state).1.result = .ok rows ∧
      (∀ row ∈ rows, ∃ contact ∈ contacts,
        Like.Matches alike pattern.toList contact.name.toList ∧ Row.Shows contact row) ∧
      ∀ contact ∈ contacts, Like.Matches alike pattern.toList contact.name.toList →
        ∃ row ∈ rows, Row.Shows contact row

namespace Identifier

variable {client : Client σ} {limit : Option Nat} {alike : Char → Char → Prop}
  {contacts : List Contact} {state : σ}

/-- The rows of a lookup hold the contact of the name, or the table has none. -/
theorem among_of_listsMatching (lists : client.ListsMatching limit alike contacts state)
    (reflexive : ∀ char, alike char char) (identifier : Identifier) :
    ∃ rows, client.Answers limit identifier rows state ∧
      ((∃ contact ∈ contacts, contact.name = identifier.name ∧ identifier.among rows = .ok contact) ∨
        (∀ contact ∈ contacts, contact.name ≠ identifier.name) ∧
          identifier.among rows = .error (.objectNotFound identifier.sql)) := by
  have asked : Statement.ofSql? (ContactsService.lookup identifier).sql =
      some (.list { like := some ⟨identifier.name⟩ }) := Statement.ofSql?_sql rfl
  rcases lists.rows _ _ asked with ⟨rows, listed, sound, complete⟩
  refine ⟨rows, ⟨listed, lists.inTime _⟩, ?_⟩
  -- Each row shows a contact, so the reading of the rows cannot stop at one that is unreadable.
  have ends := looksUp_among identifier rows
  generalize identifier.among rows = outcome at ends
  cases ends with
  | @unreadable before after row error readable fails =>
      rcases sound row (by simp) with ⟨contact, -, -, shown, decodes, -⟩
      cases fails.symm.trans decodes
  | @found before after row shown others decodes named readable =>
      rcases sound row (by simp) with ⟨contact, member, -, other, decodesOther, rfl⟩
      cases decodes.symm.trans decodesOther
      exact .inl ⟨_, member, named, rfl⟩
  | missing others =>
      refine .inr ⟨?_, rfl⟩
      intro contact member named
      have matched : Like.Matches alike identifier.name.toList contact.name.toList := by
        rw [named]
        exact Like.matches_self reflexive _
      rcases complete contact member matched with ⟨row, listed, shown, decodes, rfl⟩
      rcases others row listed with ⟨other, decodesOther, different⟩
      cases decodes.symm.trans decodesOther
      exact different named

end Identifier

namespace ContactsService

/--
Where a platform lists the contacts of a table by pattern, a lookup by any name finds the contact of exactly
that name, and reports that it is missing if the table has none. The name may be made of wildcards, quotes
and backslashes, and the platform may take characters for alike, such as the cases of a letter.
-/
theorem showById_of_listsMatching (service : ContactsService σ) {alike : Char → Char → Prop}
    (reflexive : ∀ char, alike char char) {contacts : List Contact}
    (distinct : (contacts.map Contact.name).Nodup) (session : Session σ)
    (lists : service.client.ListsMatching service.limit alike contacts session.client)
    (identifier : Identifier) :
    (∀ contact ∈ contacts, contact.name = identifier.name →
      ((service.showById identifier).run session).1 = .ok contact) ∧
    ((∀ contact ∈ contacts, contact.name ≠ identifier.name) →
      ((service.showById identifier).run session).1 =
        .error (.failed (.objectNotFound identifier.sql))) := by
  rcases identifier.among_of_listsMatching lists reflexive with ⟨rows, answers, found⟩
  have outcome : ((service.showById identifier).run session).1 =
      (identifier.among rows).mapError .failed := by
    have accepted : service.accept
        (service.client.query (lookup identifier).sql session.client).1 = .ok rows :=
      accept_eq_ok_iff.2 ⟨answers.listed, answers.inTime⟩
    rw [outcome_showById, lookedUp, accepted]
    rfl
  rw [outcome]
  constructor
  · intro contact member named
    rcases found with ⟨other, otherMember, otherNamed, among⟩ | ⟨missing, -⟩
    · have same : other = contact :=
        List.inj_on_of_nodup_map distinct otherMember member (otherNamed.trans named.symm)
      rw [among, same]
      rfl
    · exact absurd named (missing contact member)
  · intro missing
    rcases found with ⟨other, otherMember, otherNamed, -⟩ | ⟨-, among⟩
    · exact absurd otherNamed (missing other otherMember)
    · rw [among]
      rfl

end ContactsService

/-! ### A client that lists by pattern -/

/-- The row that a contact is shown by. -/
def Contact.row (contact : Contact) : Row :=
  match showOutput contact with
  | .object row => row
  | _ => []

theorem Contact.shows_row (contact : Contact) : Row.Shows contact contact.row :=
  ⟨contact.shownAgain, ShowRow.decode_showOutput contact, contact.ofRow_shownAgain⟩

namespace Listing

/-- The case of ASCII letters does not count. -/
def sameLetter (written char : Char) : Bool :=
  written.toUpper = char.toUpper

def rows (pattern : String) (contacts : List Contact) : List Row :=
  (contacts.filter fun contact =>
    Like.isMatch sameLetter pattern.toList contact.name.toList).map Contact.row

/-- A client with a table of contacts that it never changes. -/
def client : Client (List Contact) where
  exec _ contacts := (⟨.ok (), 0⟩, contacts)
  query sql contacts :=
    match Statement.ofSql? sql with
    | some (.list { like := some filter }) => (⟨.ok (rows filter.pattern contacts), 0⟩, contacts)
    | _ => (⟨.ok [], 0⟩, contacts)

/-- The client with a table lists by pattern, without regard to the case of letters. -/
theorem listsMatching (limit : Option Nat) (contacts : List Contact) :
    client.ListsMatching limit (fun written char => sameLetter written char = true) contacts
      contacts := by
  constructor
  · intro sql bound _
    simp only [client]
    split <;> exact Nat.zero_le bound
  · intro sql pattern asked
    refine ⟨rows pattern contacts, by simp only [client, asked], ?_, ?_⟩
    · intro row listed
      rcases List.mem_map.1 listed with ⟨contact, matched, rfl⟩
      rcases List.mem_filter.1 matched with ⟨member, matched⟩
      exact ⟨contact, member, Like.isMatch_iff.1 matched, contact.shows_row⟩
    · intro contact member matched
      refine ⟨contact.row, List.mem_map_of_mem ?_, contact.shows_row⟩
      exact List.mem_filter.2 ⟨member, Like.isMatch_iff.2 matched⟩

/-- Contacts that the pattern `OPS_\'%` matches, the last of which has it for its name. -/
def contacts : List Contact :=
  ["OPSX\\'", "ops_\\'a", "OPS_\\'%"].map ContactAttributes.contactNamed

end Listing

theorem ContactsService.showById_of_listsMatching_wildcards :
    let service : ContactsService (List Contact) := ⟨Listing.client, false, none, []⟩
    ((service.showById ⟨"OPS_\\'%"⟩).run ⟨Listing.contacts, []⟩).1 =
        .ok (ContactAttributes.contactNamed "OPS_\\'%") ∧
      ((service.showById ⟨"OPS%"⟩).run ⟨Listing.contacts, []⟩).1 =
        .error (.failed (.objectNotFound "\"OPS%\"")) := by
  intro service
  have finds := service.showById_of_listsMatching (fun _ => by simp [Listing.sameLetter])
    (show (Listing.contacts.map Contact.name).Nodup by decide) ⟨Listing.contacts, []⟩
    (Listing.listsMatching none Listing.contacts)
  refine ⟨(finds ⟨"OPS_\\'%"⟩).1 _ (by simp [Listing.contacts]) rfl, ?_⟩
  exact (finds ⟨"OPS%"⟩).2 (by decide)

end AlertContacts
