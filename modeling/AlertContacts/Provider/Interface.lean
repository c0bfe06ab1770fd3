import AlertContacts.Provider.Contact

/-!
# Providers

What a host drives: a provider with a state `τ` plans, creates, reads, updates and deletes
resources. Metadata, the check of a resource's configuration and import have defaults, for providers
that offer no more than the schema, accept every configuration and cannot import.

`ContactProvider.provider` is the contact provider behind this interface. Its state is the current
settings together with the session of its client, so that `configure` can change the settings.
-/

namespace AlertContacts

open Json

structure Provider (τ : Type) where
  schema : ProviderSchema
  configure : (settings : Value) → Run τ ProviderError (List Diagnostic)
  plan : (resourceType : String) → (prior : Option Value) → (proposed : Value) →
    Run τ ProviderError PlanResult
  create : (resourceType : String) → (planned : Value) → Run τ ProviderError Value
  /-- Reads the state of a resource again; null if the resource is gone. -/
  read : (resourceType : String) → (current : Value) → Run τ ProviderError Value
  update : (resourceType : String) → (prior planned : Value) → Run τ ProviderError Value
  delete : (resourceType : String) → (current : Value) → Run τ ProviderError Unit
  metadata : ProviderMetadata := ⟨schema.resources.names⟩
  validateResourceConfig : (resourceType : String) → (config : Value) →
    Run τ ProviderError (List Diagnostic) := fun _ _ => pure []
  importResource : (resourceType id : String) → Run τ ProviderError (List ImportedResource) :=
    fun resourceType _ =>
      .fail (.sdk ("Import not supported for resource type: " ++ resourceType))

/-- A contact provider and the session of its client. -/
structure Hosted (σ : Type) where
  provider : ContactProvider σ
  session : Session σ

namespace Hosted

variable {σ ε α : Type}

def run (operation : ContactProvider σ → Run (Session σ) ε α) : Run (Hosted σ) ε α :=
  ⟨fun hosted =>
    let (result, session) := (operation hosted.provider).run hosted.session
    (result, { hosted with session := session })⟩

def configure (settings : Value) : Run (Hosted σ) ε (List Diagnostic) :=
  ⟨fun hosted =>
    let (diagnostics, provider, event) := hosted.provider.configure settings
    let session := { hosted.session with events := hosted.session.events ++ [event] }
    (.ok diagnostics, ⟨provider, session⟩)⟩

end Hosted

namespace ContactProvider

variable {σ : Type}

def provider : Provider (Hosted σ) where
  schema := schema
  configure := Hosted.configure
  plan resourceType prior proposed := Hosted.run fun _ => plan resourceType prior proposed
  create resourceType planned := Hosted.run (·.create resourceType planned)
  read resourceType current := Hosted.run (·.read resourceType current)
  update resourceType prior planned := Hosted.run (·.update resourceType prior planned)
  delete resourceType current := Hosted.run (·.delete resourceType current)
  validateResourceConfig resourceType config :=
    Hosted.run fun _ => validateResourceConfig resourceType config
  importResource resourceType id := Hosted.run (·.importResource resourceType id)

end ContactProvider

end AlertContacts
