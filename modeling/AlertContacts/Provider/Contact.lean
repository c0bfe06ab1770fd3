import AlertContacts.Provider.Config
import AlertContacts.Provider.State
import AlertContacts.Schema.Contact
import AlertContacts.Schema.Validation
import AlertContacts.Service.Contacts

/-!
# The contact provider

`ContactProvider` manages `notification_contact` resources through a client. A host plans a change,
applies it with create, update or delete, and reads the state back.

An update renames first, then assigns properties, then removes them, each with a statement of its
own and only where the states differ, and finally reads the contact back. Once the contact is
renamed, a failure of the property statements is reported with the state moved to the new name,
because the platform does not know the old one any more.

Each statement is bounded by the configured limit. A statement that takes longer is given up, even
though the platform has received it.
-/

namespace AlertContacts

open Json

structure ContactProvider (σ : Type) where
  client : Client σ
  config : ProviderConfig := {}

namespace ContactProvider

variable {σ α : Type}

def schema : ProviderSchema :=
  ProviderSchema.withResource { provider := ProviderConfig.schema } contactResourceType
    contactSchema

def checkResourceType (resourceType : String) : Except ProviderError Unit :=
  if resourceType = contactResourceType then .ok () else .error (.unknownResource resourceType)

def span (operation resourceType : String) : Span :=
  ⟨operation, [("resource_type", .string resourceType)]⟩

def contacts (provider : ContactProvider σ) (span : Span) : ContactsService σ where
  client := provider.client
  logSql := provider.config.logSql
  limit := provider.config.timeoutSecs?.map (1000 * ·)
  spans := [span]

def deadlineExceeded (provider : ContactProvider σ) : ProviderError :=
  .deadlineExceeded ("statement did not complete within " ++
    toString (provider.config.timeoutSecs?.getD 0) ++ "s")

def bounded (provider : ContactProvider σ) (operation : Run (Session σ) Failure α) :
    Run (Session σ) ProviderError α :=
  operation.recover fun
    | .failed error => .fail (.ofService error)
    | .interrupted => .fail provider.deadlineExceeded

/-! ## Settings and validation -/

def configure (provider : ContactProvider σ) (settings : Value) :
    List Diagnostic × ContactProvider σ × Event :=
  let diagnostics := ProviderConfig.schema.validate settings
  if diagnostics.any Diagnostic.isError then
    (diagnostics, provider,
      ⟨.warn, "Configure completed with errors", [("diagnostics", .ofNat diagnostics.length)], []⟩)
  else
    match ProviderConfig.ofValue settings with
    | .ok config =>
      (diagnostics, { provider with config := config },
        ⟨.info, "Provider configured",
          [("log_sql", .boolean config.logSql),
           ("statement_timeout_secs", .number (.natural config.statementTimeoutSecs))], []⟩)
    | .error error =>
      (diagnostics ++
        [(Diagnostic.error "Invalid provider configuration").withDetail error.message],
        provider,
        ⟨.warn, "Configure completed with errors", [("error", .string error.text)], []⟩)

def emptyName : Diagnostic :=
  ((Diagnostic.error "Invalid identifier").withDetail "The contact name must not be empty").withPath
    "name"

def contactDiagnostics (config : Value) : List Diagnostic :=
  contactSchema.validate config ++
    match (config.get? "name").bind Value.text? with
    | none => []
    | some name => if (Identifier.mk name).isValid then [] else [emptyName]

def validateResourceConfig (resourceType : String) (config : Value) :
    Run (Session σ) ProviderError (List Diagnostic) := do
  checkResourceType resourceType
  let diagnostics := contactDiagnostics config
  if !diagnostics.isEmpty then
    Session.log ⟨.debug, "Resource config has diagnostics",
      [("diagnostics", .ofNat diagnostics.length), ("resource_type", .string resourceType)], []⟩
  return diagnostics

/-! ## Plans -/

def planCreate (proposed : Value) : Except ProviderError PlanResult := do
  let desired ← ContactAttributes.ofState proposed
  let unknown := Entries.ofList
    [(idAttribute, Value.null), (fullyQualifiedNameAttribute, .null), (showOutputAttribute, .null)]
  return ⟨.object (desired.writeInto unknown), desired.changesBy .added, false⟩

/-- Whether a change touches an attribute that cannot change in place. -/
def requiresReplacement (schema : Schema) (changes : List AttributeChange) : Bool :=
  changes.any fun change => (schema.attributes.find? change.path).any Attribute.forceNew

def planUpdate (prior proposed : Value) : Except ProviderError PlanResult := do
  let current ← ContactAttributes.ofState prior
  let desired ← ContactAttributes.ofState proposed
  let changes := current.diff desired
  if changes.isEmpty then return .noChange prior
  else
    match prior with
    | .object entries =>
      let written := (desired.writeInto entries).insert showOutputAttribute .null
      let planned :=
        if current.name = desired.name then written
        else (written.insert idAttribute .null).insert fullyQualifiedNameAttribute .null
      return ⟨.object planned, changes, requiresReplacement contactSchema changes⟩
    | _ => .error (.invalidRequest "prior state is not an object")

def planDelete (prior : Value) : Except ProviderError PlanResult := do
  let current ← ContactAttributes.ofState prior
  return ⟨.null, current.changesBy .removed, false⟩

/-- The plan from a prior state to a proposed one; null proposes that the contact goes away. -/
def planStates : Option Value → Value → Except ProviderError PlanResult
  | none, .null => .ok (.noChange .null)
  | some prior, .null => planDelete prior
  | none, proposed => planCreate proposed
  | some prior, proposed => planUpdate prior proposed

def plan (resourceType : String) (prior : Option Value) (proposed : Value) :
    Run (Session σ) ProviderError PlanResult := do
  checkResourceType resourceType
  let result ← planStates prior proposed
  Session.log ⟨.debug, "Plan completed",
    [("changes", .ofNat result.changes.length),
     ("requires_replace", .boolean result.requiresReplace)],
    [span "plan" resourceType]⟩
  return result

/-! ## Reading and writing -/

def readContact (provider : ContactProvider σ) (contacts : ContactsService σ)
    (identifier : Identifier) : Run (Session σ) ProviderError (Option Value) := do
  let contact ← provider.bounded (contacts.showByIdSafely identifier)
  return contact.map contactState

/-- The state of a contact that was just written; losing it is an error. -/
def readBack (provider : ContactProvider σ) (contacts : ContactsService σ)
    (identifier : Identifier) : Run (Session σ) ProviderError Value := do
  match ← provider.readContact contacts identifier with
  | some state => return state
  | none => .fail (.notFound
      ("notification contact " ++ identifier.sql ++ " disappeared after it was written"))

def reporting (contacts : ContactsService σ) (message : String) (identifier : Identifier)
    (operation : Run (Session σ) ProviderError α) : Run (Session σ) ProviderError α :=
  operation.recover fun error => do
    contacts.log .error message
      [("contact", .string identifier.sql), ("error", .string error.text)]
    .fail error

def create (provider : ContactProvider σ) (resourceType : String) (planned : Value) :
    Run (Session σ) ProviderError Value := do
  checkResourceType resourceType
  let desired ← ContactAttributes.ofState planned
  let identifier := desired.identifier
  let contacts := provider.contacts (span "create" resourceType)
  reporting contacts "Create failed" identifier
    (provider.bounded (contacts.create
      { name := identifier, email := desired.email, comment := desired.comment }))
  contacts.log .info "Notification contact created" [("contact", .string identifier.sql)]
  provider.readBack contacts identifier

/-- Reads the state of a contact again; null if the contact is gone. -/
def read (provider : ContactProvider σ) (resourceType : String) (current : Value) :
    Run (Session σ) ProviderError Value := do
  checkResourceType resourceType
  let identifier ← stateIdentifier current
  let contacts := provider.contacts (span "read" resourceType)
  match ← provider.readContact contacts identifier with
  | some state => return state
  | none =>
    contacts.log .warn "Notification contact not found; removing it from state"
      [("contact", .string identifier.sql)]
    return .null

def propertiesToSet (current desired : ContactAttributes) : SetProperties where
  email := if current.email = desired.email then none else some desired.email
  comment := if current.comment = desired.comment then none else desired.comment

def propertiesToUnset (current desired : ContactAttributes) : UnsetProperties where
  comment := current.comment ≠ desired.comment && desired.comment.isNone

/-- Assigns and resets properties of a contact, leaving out statements without properties. -/
def applyProperties (provider : ContactProvider σ) (contacts : ContactsService σ)
    (identifier : Identifier) (set : SetProperties) (unset : UnsetProperties) :
    Run (Session σ) ProviderError Unit := do
  if set ≠ {} then
    provider.bounded (contacts.alter { name := identifier, set := some set })
  if unset ≠ {} then
    provider.bounded (contacts.alter { name := identifier, unset := some unset })

/-- Renames a contact, and gives the identifier that it has then. -/
def rename (provider : ContactProvider σ) (contacts : ContactsService σ)
    (identifier target : Identifier) : Run (Session σ) ProviderError Identifier := do
  provider.bounded (contacts.alter { name := identifier, renameTo := some target })
  contacts.log .info "Notification contact renamed"
    [("from", .string identifier.sql), ("to", .string target.sql)]
  return target

def update (provider : ContactProvider σ) (resourceType : String) (prior planned : Value) :
    Run (Session σ) ProviderError Value := do
  checkResourceType resourceType
  let recorded ← stateIdentifier prior
  let current ← ContactAttributes.ofState prior
  let desired ← ContactAttributes.ofState planned
  let contacts := provider.contacts (span "update" resourceType)
  let renamed : Bool := current.name ≠ desired.name
  let identifier ←
    if renamed then provider.rename contacts recorded desired.identifier else pure recorded
  let apply := provider.applyProperties contacts identifier (propertiesToSet current desired)
    (propertiesToUnset current desired)
  apply.recover fun error =>
    if renamed then do
      contacts.log .error "Update failed after rename"
        [("contact", .string identifier.sql), ("error", .string error.text)]
      .fail (.partialUpdate (renamedState prior identifier) error)
    else .fail error
  contacts.log .info "Notification contact updated" [("contact", .string identifier.sql)]
  provider.readBack contacts identifier

def delete (provider : ContactProvider σ) (resourceType : String) (current : Value) :
    Run (Session σ) ProviderError Unit := do
  checkResourceType resourceType
  let identifier ← stateIdentifier current
  let contacts := provider.contacts (span "delete" resourceType)
  reporting contacts "Delete failed" identifier
    (provider.bounded (contacts.drop { name := identifier }))
  contacts.log .info "Notification contact dropped" [("contact", .string identifier.sql)]

def importIdentifier (id : String) : Except ProviderError Identifier :=
  (Identifier.parse id).mapError fun error =>
    .invalidRequest ("invalid import id: " ++ error.message)

def importResource (provider : ContactProvider σ) (resourceType id : String) :
    Run (Session σ) ProviderError (List ImportedResource) := do
  checkResourceType resourceType
  let identifier ← importIdentifier id
  let contacts := provider.contacts
    ⟨"import_resource", [("id", .string id), ("resource_type", .string resourceType)]⟩
  let contact ← provider.bounded (contacts.showById identifier)
  contacts.log .info "Notification contact imported" [("contact", .string identifier.sql)]
  return [⟨contactResourceType, contactState contact⟩]

end ContactProvider

end AlertContacts
