import AlertContacts.Json.Record

/-!
# Plans

What a provider tells a host before and after it changes a resource: a plan is the state to expect
and the list of attribute changes that lead to it, and an import is a resource with its state. A
side of a change is absent when the attribute appears or goes away; an attribute without a value is
there with null.
-/

namespace AlertContacts

open Json

structure AttributeChange where
  path : String
  /-- The value before the change; `none` when the attribute appears. -/
  before : Option Value
  /-- The value after the change; `none` when the attribute goes away. -/
  after : Option Value
  deriving Repr

namespace AttributeChange

def added (path : String) (value : Value) : AttributeChange :=
  ⟨path, none, some value⟩

def removed (path : String) (value : Value) : AttributeChange :=
  ⟨path, some value, none⟩

def modified (path : String) (before after : Value) : AttributeChange :=
  ⟨path, some before, some after⟩

def record : Record AttributeChange :=
  (Record.done AttributeChange.mk)
    |>.and (.required "path" Decoder.string)
    |>.and (.optional "before" Decoder.value)
    |>.and (.optional "after" Decoder.value)

def decode : Decoder AttributeChange :=
  record.decoder "AttributeChange"

def toValue (change : AttributeChange) : Value :=
  .ofEntries
    [("path", .string change.path), ("before", change.before.getD .null),
     ("after", change.after.getD .null)]

end AttributeChange

structure PlanResult where
  /-- The state after the plan; values that are not known yet are null. -/
  plannedState : Value
  changes : List AttributeChange
  requiresReplace : Bool
  deriving Repr

namespace PlanResult

def noChange (state : Value) : PlanResult :=
  ⟨state, [], false⟩

def hasChanges (plan : PlanResult) : Bool :=
  !plan.changes.isEmpty

def change? (plan : PlanResult) (path : String) : Option AttributeChange :=
  plan.changes.find? (·.path = path)

def changedPaths (plan : PlanResult) : List String :=
  plan.changes.map AttributeChange.path

def record : Record PlanResult :=
  (Record.done PlanResult.mk)
    |>.and (.required "planned_state" Decoder.value)
    |>.and (.required "changes" (Decoder.list AttributeChange.decode))
    |>.and (.required "requires_replace" Decoder.boolean)

def decode : Decoder PlanResult :=
  record.decoder "PlanResult"

def toValue (plan : PlanResult) : Value :=
  .ofEntries
    [("planned_state", plan.plannedState),
     ("changes", .array (plan.changes.map AttributeChange.toValue)),
     ("requires_replace", .boolean plan.requiresReplace)]

end PlanResult

structure ImportedResource where
  resourceType : String
  state : Value
  deriving Repr

namespace ImportedResource

def record : Record ImportedResource :=
  (Record.done ImportedResource.mk)
    |>.and (.required "resource_type" Decoder.string)
    |>.and (.required "state" Decoder.value)

def decode : Decoder ImportedResource :=
  record.decoder "ImportedResource"

def toValue (resource : ImportedResource) : Value :=
  .ofEntries [("resource_type", .string resource.resourceType), ("state", resource.state)]

end ImportedResource

structure ProviderMetadata where
  resources : List String
  deriving DecidableEq, Repr

namespace ProviderMetadata

def record : Record ProviderMetadata :=
  (Record.done ProviderMetadata.mk)
    |>.and (.required "resources" (Decoder.list Decoder.string))

def decode : Decoder ProviderMetadata :=
  record.decoder "ProviderMetadata"

def toValue (metadata : ProviderMetadata) : Value :=
  .ofEntries [("resources", .array (metadata.resources.map .string))]

end ProviderMetadata

end AlertContacts
