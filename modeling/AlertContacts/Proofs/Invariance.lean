import AlertContacts.Proofs.Update

/-!
# What operations leave intact

An operation changes the state of its client by the statements that it sends and in no other way. So what
every statement leaves intact, every operation does: `Run.Preserves` is closed under the ways in which
runs are put together, and an update is put together of runs that only ask the client.
-/

namespace AlertContacts

open Json

variable {σ ε ε' α β : Type}

/-- Whatever a client is asked, a property of its state stays. -/
structure Client.Preserves (client : Client σ) (invariant : σ → Prop) : Prop where
  exec (sql : String) {state : σ} (holds : invariant state) : invariant (client.exec sql state).2
  query (sql : String) {state : σ} (holds : invariant state) : invariant (client.query sql state).2

namespace Run

/-- However a run ends, a property of the client's state stays. -/
def Preserves (operation : Run (Session σ) ε α) (invariant : σ → Prop) : Prop :=
  ∀ session, invariant session.client → invariant (operation.run session).2.client

variable {invariant : σ → Prop}

theorem Preserves.ofExcept (outcome : Except ε α) :
    (ofExcept outcome : Run (Session σ) ε α).Preserves invariant := by
  intro session holds
  exact holds

theorem Preserves.log (event : Event) :
    (Session.log event : Run (Session σ) ε Unit).Preserves invariant := by
  intro session holds
  exact holds

/-- What both parts of a run leave intact, the run does. -/
theorem Preserves.bind {first : Run (Session σ) ε α} {next : α → Run (Session σ) ε β}
    (preserves : first.Preserves invariant)
    (continues : ∀ result, (next result).Preserves invariant) :
    (first >>= next).Preserves invariant := by
  intro session holds
  have kept := preserves session holds
  rw [run_bind]
  generalize first.run session = state at kept ⊢
  rcases state with ⟨error | result, after⟩
  · exact kept
  · exact continues result after kept

/-- What a run and its handler leave intact, they do together. -/
theorem Preserves.recover {first : Run (Session σ) ε α} {handle : ε → Run (Session σ) ε' α}
    (preserves : first.Preserves invariant) (handles : ∀ error, (handle error).Preserves invariant) :
    (first.recover handle).Preserves invariant := by
  intro session holds
  have kept := preserves session holds
  rw [run_recover]
  generalize first.run session = state at kept ⊢
  rcases state with ⟨error | result, after⟩
  · exact handles error after kept
  · exact kept

end Run

/-! ### The service -/

namespace ContactsService

variable {service : ContactsService σ} {invariant : σ → Prop}

/-- Preparing a statement does not ask the client. -/
theorem preserves_prepare (service : ContactsService σ) (statement : Statement) :
    (service.prepare statement).Preserves invariant := by
  refine .bind (.ofExcept _) ?_
  intro sql
  refine .bind (.log _) ?_
  intro _
  exact .ofExcept (.ok sql)

variable (keeps : service.client.Preserves invariant)

include keeps

/-- Executing a statement changes the client by this statement alone. -/
theorem preserves_execute (statement : Statement) :
    (service.execute statement).Preserves invariant := by
  refine .bind (service.preserves_prepare statement) ?_
  intro sql session holds
  exact keeps.exec sql holds

theorem preserves_fetch (statement : Statement) (decode : Decoder α) :
    (service.fetch statement decode).Preserves invariant := by
  have receives (sql : String) : (service.receive (service.client.query sql)).Preserves invariant := by
    intro session holds
    exact keeps.query sql holds
  refine .bind (service.preserves_prepare statement) ?_
  intro sql
  refine .bind (receives sql) ?_
  intro rows
  refine .bind (.log _) ?_
  intro _
  exact .ofExcept _

theorem preserves_showById (identifier : Identifier) :
    (service.showById identifier).Preserves invariant := by
  have serves : ((service.on "contacts.show_by_id" identifier).inside
      ⟨"contacts.show", []⟩).client.Preserves invariant := keeps
  refine .bind (.bind (preserves_fetch serves _ _) fun rows => .ofExcept (.ok _)) ?_
  intro contacts
  split
  · exact .ofExcept (.ok _)
  · exact .ofExcept (.error _)

theorem preserves_showByIdSafely (identifier : Identifier) :
    (service.showByIdSafely identifier).Preserves invariant := by
  have serves : (service.on "contacts.show_by_id_safely" identifier).client.Preserves invariant :=
    keeps
  refine .recover (.bind (preserves_showById serves identifier) fun contact => .ofExcept (.ok _)) ?_
  intro failure
  split
  · exact .ofExcept (.ok _)
  · exact .ofExcept (.error _)

end ContactsService

/-! ### The provider -/

namespace ContactProvider

variable {provider : ContactProvider σ} {invariant : σ → Prop}

/-- A limit decides how a run ends, and not what it does to the client. -/
theorem preserves_bounded {operation : Run (Session σ) Failure α}
    (preserves : operation.Preserves invariant) :
    (provider.bounded operation).Preserves invariant := by
  refine preserves.recover ?_
  intro failure
  cases failure with
  | failed error => exact .ofExcept (.error _)
  | interrupted => exact .ofExcept (.error _)

variable {contacts : ContactsService σ} (keeps : contacts.client.Preserves invariant)

include keeps

theorem preserves_alterIf (needed : Prop) [Decidable needed] (request : AlterContact) :
    (provider.alterIf contacts needed request).Preserves invariant := by
  have serves : (contacts.on "contacts.alter" request.name).client.Preserves invariant := keeps
  rw [alterIf]
  split
  · exact preserves_bounded (ContactsService.preserves_execute serves (.alter request))
  · exact .ofExcept (.ok ())

theorem preserves_rename (identifier target : Identifier) :
    (provider.rename contacts identifier target).Preserves invariant := by
  have alters : (provider.alterIf contacts True
      { name := identifier, renameTo := some target }).Preserves invariant :=
    preserves_alterIf keeps True _
  rw [alterIf, if_pos trivial] at alters
  refine .bind alters ?_
  intro _
  refine .bind (.log _) ?_
  intro _
  exact .ofExcept (.ok target)

theorem preserves_readBack (identifier : Identifier) :
    (provider.readBack contacts identifier).Preserves invariant := by
  have shows : (provider.bounded (contacts.showByIdSafely identifier)).Preserves invariant :=
    preserves_bounded (ContactsService.preserves_showByIdSafely keeps identifier)
  refine .bind (.bind shows fun contact => .ofExcept (.ok _)) ?_
  intro state
  cases state with
  | none => exact .ofExcept (.error _)
  | some state => exact .ofExcept (.ok state)

/-- Settling properties leaves intact what the client does, whichever statements it takes. -/
theorem preserves_settle (prior : Value) (current desired : ContactAttributes) (renamed : Bool)
    (identifier : Identifier) :
    (provider.settle contacts prior current desired renamed identifier).Preserves invariant := by
  have applies : (provider.applyGuarded contacts prior current desired renamed
      identifier).Preserves invariant := by
    rw [applyGuarded, applyProperties_eq]
    refine .recover (.bind (preserves_alterIf keeps _ _) fun _ => preserves_alterIf keeps _ _) ?_
    intro error
    cases renamed with
    | false => exact .ofExcept (.error _)
    | true => exact .bind (.log _) fun _ => .ofExcept (.error _)
  refine .bind applies ?_
  intro _
  refine .bind (.log _) ?_
  intro _
  exact preserves_readBack keeps identifier

/-- Carrying out a change leaves intact what the client does, with a rename or without. -/
theorem preserves_carryOut (prior : Value) (recorded : Identifier)
    (current desired : ContactAttributes) :
    (provider.carryOut contacts prior recorded current desired).Preserves invariant := by
  rw [carryOut]
  split
  · exact preserves_settle keeps prior current desired false recorded
  · refine .bind (preserves_rename keeps recorded desired.identifier) ?_
    intro identifier
    exact preserves_settle keeps prior current desired true identifier

omit keeps in
/-- An update leaves intact whatever its client does, however it ends. -/
theorem preserves_update (keeps : provider.client.Preserves invariant) (resourceType : String)
    (prior planned : Value) : (provider.update resourceType prior planned).Preserves invariant := by
  have serves : (provider.contacts (span "update" resourceType)).client.Preserves invariant := keeps
  rw [update_eq]
  refine .bind (.ofExcept _) ?_
  intro _
  refine .bind (.ofExcept _) ?_
  intro recorded
  refine .bind (.ofExcept _) ?_
  intro current
  refine .bind (.ofExcept _) ?_
  intro desired
  exact preserves_carryOut serves prior recorded current desired

end ContactProvider

end AlertContacts
