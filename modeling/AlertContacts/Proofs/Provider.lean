import AlertContacts.Proofs.Transcript
import AlertContacts.Provider.Contact

/-!
# What a provider sends

The provider over a recording client, and the steps that its operations are made of: a statement of
the service, the property statements, a rename, and reading back. Each step mirrors the one of the
provider itself. An alteration is attempted and succeeds or fails as a whole, reading back sends one
statement in any case, and a failure of a step never carries a state.
-/

namespace AlertContacts

open Json

variable {σ α β : Type}

namespace Statement

/-! ### The statements of an update -/

def rename (identifier target : Identifier) : Statement :=
  .alter { name := identifier, renameTo := some target }

def assign (identifier : Identifier) (set : SetProperties) : Statement :=
  .alter { name := identifier, set := some set }

def reset (identifier : Identifier) (unset : UnsetProperties) : Statement :=
  .alter { name := identifier, unset := some unset }

/-- The statements for properties; without properties there is no statement. -/
def forProperties (identifier : Identifier) (set : SetProperties) (unset : UnsetProperties) :
    List Statement :=
  (if set ≠ {} then [assign identifier set] else []) ++
    if unset ≠ {} then [reset identifier unset] else []

/-- Properties take an assignment or a reset, and no other statement. -/
theorem mem_forProperties {identifier : Identifier} {set : SetProperties} {unset : UnsetProperties}
    {statement : Statement} (member : statement ∈ forProperties identifier set unset) :
    statement = assign identifier set ∨ statement = reset identifier unset := by
  rcases List.mem_append.1 member with assigns | resets
  · split at assigns
    · exact .inl (List.mem_singleton.1 assigns)
    · cases assigns
  · split at resets
    · exact .inr (List.mem_singleton.1 resets)
    · cases resets

/-- A property statement with another one behind it is the assignment in front of the reset. -/
theorem eq_assign_of_forProperties_split {identifier : Identifier} {set : SetProperties}
    {unset : UnsetProperties} {before after : List Statement} {statement : Statement}
    (parts : forProperties identifier set unset = before ++ statement :: after)
    (followed : after ≠ []) : statement = assign identifier set ∧ set ≠ {} ∧ unset ≠ {} := by
  have short := congrArg List.length parts
  have later := List.length_pos_iff.2 followed
  rw [forProperties] at parts short
  rw [List.length_append, List.length_append, List.length_cons] at short
  by_cases assigns : set ≠ {}
  · by_cases resets : unset ≠ {}
    · rw [if_pos assigns, if_pos resets] at parts short
      simp only [List.length_singleton] at short
      have first : before = [] := List.length_eq_zero_iff.1 (by omega)
      rw [first] at parts
      simp only [List.nil_append, List.singleton_append, List.cons.injEq] at parts
      exact ⟨parts.1.symm, assigns, resets⟩
    · rw [if_pos assigns, if_neg resets] at short
      simp only [List.length_singleton, List.length_nil] at short
      omega
  · rw [if_neg assigns] at short
    split at short
    · simp only [List.length_singleton, List.length_nil] at short
      omega
    · simp only [List.length_nil] at short
      omega

section texts

variable {identifier other target : Identifier} {set : SetProperties} {unset : UnsetProperties}

theorem rename_sql_ne_assign_sql (renameValid : (rename identifier target).violations = [])
    (assignValid : (assign other set).violations = []) :
    (rename identifier target).sql ≠ (assign other set).sql := by
  apply sql_ne_of_lexeme_ne renameValid assignValid 4
  change some (Symbol.lexeme (.keyword .rename)) ≠ some (Symbol.lexeme (.keyword .set))
  decide

theorem rename_sql_ne_reset_sql (renameValid : (rename identifier target).violations = [])
    (resetValid : (reset other unset).violations = []) :
    (rename identifier target).sql ≠ (reset other unset).sql := by
  apply sql_ne_of_lexeme_ne renameValid resetValid 4
  change some (Symbol.lexeme (.keyword .rename)) ≠ some (Symbol.lexeme (.keyword .unset))
  decide

theorem assign_sql_ne_reset_sql (assignValid : (assign identifier set).violations = [])
    (resetValid : (reset other unset).violations = []) :
    (assign identifier set).sql ≠ (reset other unset).sql := by
  apply sql_ne_of_lexeme_ne assignValid resetValid 4
  change some (Symbol.lexeme (.keyword .set)) ≠ some (Symbol.lexeme (.keyword .unset))
  decide

/-- A lookup cannot be taken for an alteration by its text. -/
theorem lookup_sql_ne_alter_sql {request : AlterContact}
    (valid : (Statement.alter request).violations = []) :
    (ContactsService.lookup identifier).sql ≠ (Statement.alter request).sql := by
  apply sql_ne_of_lexeme_ne rfl valid 0
  change some (Symbol.lexeme (.keyword .show)) ≠ some (Symbol.lexeme (.keyword .alter))
  decide

end texts

end Statement

def ProviderConfig.limit? (config : ProviderConfig) : Option Nat :=
  config.timeoutSecs?.map (1000 * ·)

/-- A failure that carries no state. -/
def FailsPlainly (outcome : Except ProviderError α) : Prop :=
  ∀ error, outcome = .error error → error.partialState? = none

theorem FailsPlainly.ok (result : α) : FailsPlainly (.ok result) := by
  rintro error ⟨⟩

theorem FailsPlainly.error {error : ProviderError} (plain : error.partialState? = none) :
    FailsPlainly (.error error : Except ProviderError α) := by
  rintro _ ⟨rfl⟩
  exact plain

/-- The failures that carry a state are those of a partial update. -/
theorem ProviderError.exists_of_partialState? {error : ProviderError} {state : Value}
    (carried : error.partialState? = some state) : ∃ cause, error = .partialUpdate state cause := by
  cases error with
  | partialUpdate other cause =>
      cases carried
      exact ⟨cause, rfl⟩
  | _ => cases carried

theorem ProviderError.partialState?_ofService (error : ServiceError) :
    (ProviderError.ofService error).partialState? = none := by
  unfold ofService
  split
  · rfl
  · split
    · rfl
    · rfl
    · rfl

namespace ContactProvider

/-! ### The provider over a recording client -/

def recording (provider : ContactProvider σ) : ContactProvider (Recorded σ) :=
  ⟨provider.client.recording, provider.config⟩

theorem mirrors_bounded (provider : ContactProvider σ)
    {operation : Run (Session (Recorded σ)) Failure α} {plain : Run (Session σ) Failure α}
    (mirrors : operation.Mirrors plain) :
    (provider.recording.bounded operation).Mirrors (provider.bounded plain) := by
  refine mirrors.recover ?_
  intro failure
  cases failure with
  | failed error => exact .ofExcept (.error _)
  | interrupted => exact .ofExcept (.error _)

/-- A limit leaves what is sent as it is, and the failures that a host is told of carry no state. -/
theorem sends_bounded (provider : ContactProvider σ) (property : Bool → List Exchange → Prop)
    {operation : Run (Session (Recorded σ)) Failure α}
    (sends : operation.Sends fun outcome sent => property outcome.isOk sent) :
    (provider.recording.bounded operation).Sends fun outcome sent =>
      property outcome.isOk sent ∧ FailsPlainly outcome := by
  refine sends.recover ?_ ?_
  · intro result sent holds
    exact ⟨holds, .ok result⟩
  · intro failure sent holds
    cases failure with
    | failed error =>
        refine .ofExcept ?_
        rw [List.append_nil]
        exact ⟨holds, .error (ProviderError.partialState?_ofService error)⟩
    | interrupted =>
        refine .ofExcept ?_
        rw [List.append_nil]
        exact ⟨holds, .error rfl⟩

theorem mirrors_reporting (contacts : ContactsService σ) (message : String) (identifier : Identifier)
    {operation : Run (Session (Recorded σ)) ProviderError α}
    {plain : Run (Session σ) ProviderError α} (mirrors : operation.Mirrors plain) :
    (reporting contacts.recording message identifier operation).Mirrors
      (reporting contacts message identifier plain) := by
  refine mirrors.recover ?_
  intro error
  exact (Run.Mirrors.log _).bind fun _ => .ofExcept (.error error)

/-- A failure that is logged was sent about all the same. -/
theorem sends_reporting (contacts : ContactsService (Recorded σ)) (message : String)
    (identifier : Identifier) {property : List Exchange → Prop}
    {operation : Run (Session (Recorded σ)) ProviderError α}
    (sends : operation.Sends fun _ sent => property sent) :
    (reporting contacts message identifier operation).Sends fun _ sent => property sent := by
  refine sends.recover ?_ ?_
  · intro _ sent holds
    exact holds
  · intro error before holds
    exact .log_bind (.ofExcept_append holds)

/-! ### Properties -/

/-- An alteration that is left out where it is not needed. -/
def alterIf (provider : ContactProvider σ) (contacts : ContactsService σ) (needed : Prop)
    [Decidable needed] (request : AlterContact) : Run (Session σ) ProviderError Unit :=
  if needed then provider.bounded (contacts.alter request) else pure ()

section applyProperties

variable (provider : ContactProvider σ) (contacts : ContactsService σ) (identifier : Identifier)
  (set : SetProperties) (unset : UnsetProperties)

theorem mirrors_alterIf (needed : Prop) [Decidable needed] (request : AlterContact) :
    (provider.recording.alterIf contacts.recording needed request).Mirrors
      (provider.alterIf contacts needed request) := by
  rw [alterIf, alterIf]
  split
  · exact provider.mirrors_bounded (ContactsService.mirrors_execute _ _)
  · exact .ofExcept (.ok ())

/-- An alteration is attempted if it is needed, and otherwise nothing is sent. -/
theorem sends_alterIf (needed : Prop) [Decidable needed] (request : AlterContact) :
    (provider.recording.alterIf contacts.recording needed request).Sends fun outcome sent =>
      Attempted contacts.limit (if needed then [.alter request] else []) sent outcome.isOk ∧
        FailsPlainly outcome := by
  rw [alterIf]
  split
  · have sends := (contacts.on "contacts.alter" request.name).sends_execute (.alter request)
    exact provider.sends_bounded
      (fun succeeded sent => Attempted contacts.limit [.alter request] sent succeeded) sends
  · exact .ofExcept ⟨.all, .ok ()⟩

theorem applyProperties_eq : provider.applyProperties contacts identifier set unset = (do
    provider.alterIf contacts (set ≠ {}) { name := identifier, set := some set }
    provider.alterIf contacts (unset ≠ {}) { name := identifier, unset := some unset }) := by
  unfold applyProperties alterIf
  by_cases assigns : set ≠ {}
  · rw [if_pos assigns, if_pos assigns]
  · rw [if_neg assigns, if_neg assigns]
    rfl

theorem mirrors_applyProperties :
    (provider.recording.applyProperties contacts.recording identifier set unset).Mirrors
      (provider.applyProperties contacts identifier set unset) := by
  rw [applyProperties_eq, applyProperties_eq]
  refine (provider.mirrors_alterIf contacts (set ≠ {}) _).bind ?_
  intro _
  exact provider.mirrors_alterIf contacts (unset ≠ {}) _

/-- The statements for properties are attempted one behind the other. -/
theorem sends_applyProperties :
    (provider.recording.applyProperties contacts.recording identifier set unset).Sends
      fun outcome sent =>
        Attempted contacts.limit (Statement.forProperties identifier set unset) sent outcome.isOk ∧
          FailsPlainly outcome := by
  rw [applyProperties_eq]
  refine (provider.sends_alterIf contacts (set ≠ {}) _).bind ?_ ?_
  · rintro error sent ⟨attempted, plain⟩
    exact ⟨attempted.stopped _, .error (plain error rfl)⟩
  · rintro _ before ⟨assigned, -⟩
    refine (provider.sends_alterIf contacts (unset ≠ {}) _).weaken ?_
    rintro outcome sent ⟨attempted, plain⟩
    exact ⟨assigned.append attempted, plain⟩

end applyProperties

/-! ### Renaming and reading back -/

section rename

variable (provider : ContactProvider σ) (contacts : ContactsService σ)
  (identifier target : Identifier)

theorem mirrors_rename : (provider.recording.rename contacts.recording identifier target).Mirrors
    (provider.rename contacts identifier target) := by
  have alters := provider.mirrors_alterIf contacts True
    { name := identifier, renameTo := some target }
  rw [alterIf, alterIf, if_pos trivial, if_pos trivial] at alters
  refine alters.bind ?_
  intro _
  refine (Run.Mirrors.log _).bind ?_
  intro _
  exact .ofExcept (.ok target)

/-- A rename is attempted alone, and if it succeeds its target is the identifier that goes on. -/
theorem sends_rename : (provider.recording.rename contacts.recording identifier target).Sends
    fun outcome sent =>
      Attempted contacts.limit [.rename identifier target] sent outcome.isOk ∧
        FailsPlainly outcome ∧ ∀ result, outcome = .ok result → result = target := by
  have alters := provider.sends_alterIf contacts True { name := identifier, renameTo := some target }
  rw [alterIf, if_pos trivial, if_pos trivial] at alters
  refine alters.bind ?_ ?_
  · rintro error sent ⟨attempted, plain⟩
    exact ⟨attempted, .error (plain error rfl), by rintro result ⟨⟩⟩
  · rintro _ before ⟨attempted, -⟩
    refine .log_bind (.ofExcept ?_)
    rw [List.append_nil]
    refine ⟨attempted, .ok target, ?_⟩
    rintro result ⟨rfl⟩
    rfl

theorem mirrors_readContact :
    (provider.recording.readContact contacts.recording identifier).Mirrors
      (provider.readContact contacts identifier) := by
  refine (provider.mirrors_bounded (contacts.mirrors_showByIdSafely identifier)).bind ?_
  intro contact
  exact .ofExcept (.ok _)

theorem mirrors_readBack : (provider.recording.readBack contacts.recording identifier).Mirrors
    (provider.readBack contacts identifier) := by
  refine (provider.mirrors_readContact contacts identifier).bind ?_
  intro state
  cases state with
  | none => exact .ofExcept (.error _)
  | some state => exact .ofExcept (.ok state)

/-- Reading a contact sends its lookup once, whatever the answer. -/
theorem sends_readContact : (provider.recording.readContact contacts.recording identifier).Sends
    fun outcome sent =>
      SentOnce (ContactsService.lookup identifier) sent ∧ FailsPlainly outcome := by
  have shows := provider.sends_bounded (fun _ => SentOnce (ContactsService.lookup identifier))
    (contacts.sends_showByIdSafely identifier)
  refine shows.bind ?_ ?_
  · rintro error sent ⟨looked, plain⟩
    exact ⟨looked, .error (plain error rfl)⟩
  · rintro contact before ⟨looked, -⟩
    refine .ofExcept ?_
    rw [List.append_nil]
    exact ⟨looked, .ok _⟩

/-- Reading a contact back sends its lookup once, and no failure of it carries a state. -/
theorem sends_readBack : (provider.recording.readBack contacts.recording identifier).Sends
    fun outcome sent =>
      SentOnce (ContactsService.lookup identifier) sent ∧ FailsPlainly outcome := by
  refine (provider.sends_readContact contacts identifier).bind ?_ ?_
  · rintro error sent ⟨looked, plain⟩
    exact ⟨looked, .error (plain error rfl)⟩
  · rintro state before ⟨looked, -⟩
    cases state with
    | none =>
        refine .ofExcept ?_
        rw [List.append_nil]
        exact ⟨looked, .error rfl⟩
    | some state =>
        refine .ofExcept ?_
        rw [List.append_nil]
        exact ⟨looked, .ok state⟩

end rename

end ContactProvider

end AlertContacts
