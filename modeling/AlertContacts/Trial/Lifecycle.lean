import AlertContacts.Provider.Interface

/-!
# Lifecycles

A trial drives a provider through the calls that a host makes: each state goes through a plan, the
planned state is applied, and the result is read again. An error diagnostic fails a trial just as an
error of the provider does.
-/

namespace AlertContacts

open Json

inductive TrialError where
  | diagnostics (diagnostics : List Diagnostic)
  | provider (error : ProviderError)
  deriving Repr

def Diagnostic.line (diagnostic : Diagnostic) : String :=
  "  [" ++ diagnostic.severity.label ++ "] " ++ diagnostic.summary ++
    diagnostic.detail.elim "" (": " ++ ·) ++
    diagnostic.path.elim "" (" (at " ++ · ++ ")") ++ "\n"

def TrialError.message : TrialError → String
  | .diagnostics errors =>
    "Operation failed with " ++ toString errors.length ++ " diagnostic(s):\n" ++
      String.join (errors.map Diagnostic.line)
  | .provider error => "Provider error: " ++ error.text

namespace Provider

variable {τ : Type}

/-- The diagnostics of a call have to be free of errors. -/
def requireNoErrors (call : Run τ ProviderError (List Diagnostic)) : Run τ TrialError Unit := do
  let diagnostics ← call.recover fun error => .fail (.provider error)
  let errors := diagnostics.filter Diagnostic.isError
  if !errors.isEmpty then .fail (.diagnostics errors)

def tryConfigure (provider : Provider τ) (settings : Value) : Run τ TrialError Unit :=
  requireNoErrors (provider.configure settings)

def tryConfig (provider : Provider τ) (resourceType : String) (config : Value) :
    Run τ TrialError Unit :=
  requireNoErrors (provider.validateResourceConfig resourceType config)

def planCreate (provider : Provider τ) (resourceType : String) (proposed : Value) :
    Run τ ProviderError PlanResult :=
  provider.plan resourceType none proposed

def planUpdate (provider : Provider τ) (resourceType : String) (prior proposed : Value) :
    Run τ ProviderError PlanResult :=
  provider.plan resourceType (some prior) proposed

def planDelete (provider : Provider τ) (resourceType : String) (prior : Value) :
    Run τ ProviderError PlanResult :=
  provider.plan resourceType (some prior) .null

def lifecycleCreate (provider : Provider τ) (resourceType : String) (config : Value) :
    Run τ ProviderError Value := do
  let plan ← provider.planCreate resourceType config
  let created ← provider.create resourceType plan.plannedState
  provider.read resourceType created

def lifecycleUpdate (provider : Provider τ) (resourceType : String) (prior proposed : Value) :
    Run τ ProviderError Value := do
  let plan ← provider.planUpdate resourceType prior proposed
  let updated ← provider.update resourceType prior plan.plannedState
  provider.read resourceType updated

def lifecycleDelete (provider : Provider τ) (resourceType : String) (current : Value) :
    Run τ ProviderError Unit := do
  let _ ← provider.planDelete resourceType current
  provider.delete resourceType current

/-- Creates, updates and deletes a resource, and gives its state before it was deleted. -/
def lifecycleCrud (provider : Provider τ) (resourceType : String) (initial updated : Value) :
    Run τ ProviderError Value := do
  let created ← provider.lifecycleCreate resourceType initial
  let state ← provider.lifecycleUpdate resourceType created updated
  provider.lifecycleDelete resourceType state
  return state

end Provider

end AlertContacts
