import AlertContacts.Contact.Row
import AlertContacts.Provider.Error
import AlertContacts.Provider.Plan
import AlertContacts.Schema.Contact

/-!
# Contact states

A host keeps the state of a contact as a value. `ContactAttributes` are the attributes a user sets,
in their normal form: a name is read as an SQL form where it is one, so `"OPS"` and `OPS` name the
same contact, and an empty comment counts as none. `contactState` is the state of a contact that was
read back from the platform, `stateIdentifier` finds the identifier a state was recorded under, and
`renamedState` moves a state to another identifier.
-/

namespace AlertContacts

open Json

structure ContactAttributes where
  name : String
  email : String
  comment : Option String
  deriving DecidableEq, Repr

namespace ContactAttributes

def record : Record ContactAttributes :=
  (Record.done ContactAttributes.mk)
    |>.and (.required "name" Decoder.string)
    |>.and (.required "email" Decoder.string)
    |>.and (.withDefault "comment" (Decoder.optional Decoder.string) none)

def decode : Decoder ContactAttributes :=
  record.decoder "ContactAttributes"

/-- A name as the identifier it writes, if it writes one. -/
def normalName (name : String) : String :=
  match Identifier.parse name with
  | .ok identifier => identifier.name
  | .error _ => name

def normalized (attributes : ContactAttributes) : ContactAttributes :=
  { attributes with
    name := normalName attributes.name
    comment := attributes.comment.filter (· ≠ "") }

def ofState (state : Value) : Except ProviderError ContactAttributes :=
  match decode state with
  | .ok attributes => .ok attributes.normalized
  | .error error => .error (.invalidRequest ("malformed contact attributes: " ++ error.message))

def identifier (attributes : ContactAttributes) : Identifier :=
  ⟨attributes.name⟩

def commentValue (attributes : ContactAttributes) : Value :=
  .ofOptional attributes.comment

def writeInto (attributes : ContactAttributes) (entries : Entries Value) : Entries Value :=
  ((entries.insert "name" (.string attributes.name)).insert "email"
    (.string attributes.email)).insert "comment" attributes.commentValue

def changeUnless (agree : Bool) (path : String) (before after : Value) : List AttributeChange :=
  if agree then [] else [.modified path before after]

def diff (current desired : ContactAttributes) : List AttributeChange :=
  changeUnless (current.name = desired.name) "name" (.string current.name)
    (.string desired.name) ++
  changeUnless (current.email = desired.email) "email" (.string current.email)
    (.string desired.email) ++
  changeUnless (current.comment = desired.comment) "comment" current.commentValue
    desired.commentValue

def changesBy (attributes : ContactAttributes) (change : String → Value → AttributeChange) :
    List AttributeChange :=
  [change "name" (.string attributes.name), change "email" (.string attributes.email)] ++
    if attributes.comment.isSome then [change "comment" attributes.commentValue] else []

end ContactAttributes

def showOutput (contact : Contact) : Value :=
  .ofEntries
    [("created_on", .string contact.createdOn.offsetText), ("name", .string contact.name),
     ("email", .string contact.email), ("comment", .string contact.comment),
     ("owner", .string contact.owner)]

def contactState (contact : Contact) : Value :=
  let fullyQualifiedName := contact.identifier.sql
  .ofEntries
    [(idAttribute, .string fullyQualifiedName), ("name", .string contact.name),
     ("email", .string contact.email),
     ("comment", if contact.comment = "" then .null else .string contact.comment),
     (fullyQualifiedNameAttribute, .string fullyQualifiedName),
     (showOutputAttribute, .array [showOutput contact])]

/-- The identifier that a state is recorded under. -/
def stateIdentifier (state : Value) : Except ProviderError Identifier :=
  match (state.get? idAttribute).bind Value.text? with
  | none => .error (.invalidRequest "state has no resource id")
  | some raw =>
    (Identifier.parse raw).mapError fun error =>
      .invalidRequest ("invalid resource id '" ++ raw ++ "': " ++ error.message)

/-- The prior state moved to another identifier, with its other attributes as they were. -/
def renamedState (prior : Value) (identifier : Identifier) : Value :=
  let entries : Entries Value := match prior with
    | .object entries => entries
    | _ => []
  .object
    ((((entries.insert idAttribute (.string identifier.sql)).insert "name"
      (.string identifier.name)).insert fullyQualifiedNameAttribute
        (.string identifier.sql)).insert showOutputAttribute .null)

end AlertContacts
