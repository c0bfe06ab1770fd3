import AlertContacts.Provider.Plan
import AlertContacts.Schema.Diagnostic
import AlertContacts.Text.Quoted
import AlertContacts.Text.Substring

/-!
# Expectations

What a trial may expect of a plan or of diagnostics. A check gives nothing when the expectation is
met, and the unmet expectation otherwise.
-/

namespace AlertContacts

inductive Unmet where
  | nothingToCreate
  | replacesInsteadOfCreating
  | unexpectedChanges (paths : List String)
  | requiresReplacement
  | unchanged (path : String) (changed : List String)
  | changed (path : String)
  | unexpectedErrors (summaries : List String)
  | noErrors
  | noMatchingError (part : String) (summaries : List String)
  deriving DecidableEq, Repr

def Unmet.message : Unmet → String
  | .nothingToCreate => "Expected plan to have changes for create, but got no changes"
  | .replacesInsteadOfCreating => "Expected plan to create, not replace"
  | .unexpectedChanges paths =>
    "Expected no changes, but got " ++ toString paths.length ++ " change(s): " ++
      Text.escapedList paths
  | .requiresReplacement => "Expected plan to update in place, but it requires replacement"
  | .unchanged path others =>
    "Expected plan to change attribute '" ++ path ++
      "', but it was not changed. Changed attributes: " ++ Text.escapedList others
  | .changed path =>
    "Expected plan to not change attribute '" ++ path ++ "', but it was changed"
  | .unexpectedErrors summaries =>
    "Expected no errors, but got " ++ toString summaries.length ++ " error(s): " ++
      Text.escapedList summaries
  | .noErrors => "Expected at least one error, but got none"
  | .noMatchingError part summaries =>
    "Expected an error containing '" ++ part ++ "', but no matching error found. Errors: " ++
      Text.escapedList summaries

def Unmet.unless (met : Bool) (expectation : Unmet) :
    Except Unmet Unit :=
  if met then .ok () else .error expectation

namespace PlanResult

def expectCreates (plan : PlanResult) : Except Unmet Unit := do
  Unmet.unless plan.hasChanges .nothingToCreate
  Unmet.unless (!plan.requiresReplace) .replacesInsteadOfCreating

def expectNoChanges (plan : PlanResult) : Except Unmet Unit :=
  Unmet.unless (!plan.hasChanges) (.unexpectedChanges plan.changedPaths)

def expectInPlace (plan : PlanResult) : Except Unmet Unit :=
  Unmet.unless (!plan.requiresReplace) .requiresReplacement

def expectChange (plan : PlanResult) (path : String) : Except Unmet Unit :=
  Unmet.unless (plan.change? path).isSome (.unchanged path plan.changedPaths)

def expectNoChange (plan : PlanResult) (path : String) : Except Unmet Unit :=
  Unmet.unless (plan.change? path).isNone (.changed path)

end PlanResult

namespace Diagnostic

def errorSummaries (diagnostics : List Diagnostic) : List String :=
  (diagnostics.filter isError).map summary

def expectNoErrors (diagnostics : List Diagnostic) : Except Unmet Unit :=
  Unmet.unless (!diagnostics.any isError) (.unexpectedErrors (errorSummaries diagnostics))

def expectErrors (diagnostics : List Diagnostic) : Except Unmet Unit :=
  Unmet.unless (diagnostics.any isError) .noErrors

def expectErrorContaining (diagnostics : List Diagnostic) (part : String) :
    Except Unmet Unit :=
  Unmet.unless ((errorSummaries diagnostics).any (Text.contains · part))
    (.noMatchingError part (errorSummaries diagnostics))

end Diagnostic

end AlertContacts
