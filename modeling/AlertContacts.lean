import AlertContacts.Client.Script
import AlertContacts.Json.Reader
import AlertContacts.Json.Writer
import AlertContacts.Schema.Codec
import AlertContacts.Sql.Like
import AlertContacts.Trial.Expectation
import AlertContacts.Trial.Lifecycle
import AlertContacts.Proofs.Grammar
import AlertContacts.Proofs.Attributes
import AlertContacts.Proofs.Plan
import AlertContacts.Proofs.Provider
import AlertContacts.Proofs.Update
import AlertContacts.Proofs.Reading
import AlertContacts.Proofs.UpdateOrder
import AlertContacts.Proofs.Execution
import AlertContacts.Proofs.Platform
import AlertContacts.Proofs.Settlement
import AlertContacts.Proofs.Progress
import AlertContacts.Proofs.Lookup
import AlertContacts.Proofs.Identity
import AlertContacts.Proofs.Convergence
import AlertContacts.Proofs.Invariance
import AlertContacts.Proofs.Replay
import AlertContacts.Proofs.Retry
import AlertContacts.Proofs.Wire
import AlertContacts.Proofs.ExactLookup
import AlertContacts.Proofs.Gate
import AlertContacts.Proofs.Refusal
import AlertContacts.Proofs.Configuration
import AlertContacts.Proofs.ReturnedState
import AlertContacts.Proofs.Settings
import AlertContacts.Proofs.Importing
import AlertContacts.Proofs.Timestamp
import AlertContacts.Proofs.ShownContact
import AlertContacts.Proofs.SchemaWire
import AlertContacts.Proofs.PatternLookup
import AlertContacts.Proofs.Course
import AlertContacts.Proofs.Lifecycle
import AlertContacts.Proofs.Offences
import AlertContacts.Proofs.SqlForm
import AlertContacts.Proofs.Patch
import AlertContacts.Proofs.ListedState
import AlertContacts.Proofs.Absence
import AlertContacts.Proofs.ComputedAttributes
import AlertContacts.Proofs.AbsentClauses
import AlertContacts.Proofs.ScriptedAnswers
import AlertContacts.Proofs.Literal
