import HealthLedger.Config
import HealthLedger.Document.Decoder
import HealthLedger.Document.Details
import HealthLedger.Document.JobSpec
import HealthLedger.Document.Key
import HealthLedger.Document.Metadata
import HealthLedger.Document.Mismatch
import HealthLedger.Document.Resource
import HealthLedger.Http.Client
import HealthLedger.Http.Message
import HealthLedger.Http.Network
import HealthLedger.Http.Url
import HealthLedger.Json.Flaw
import HealthLedger.Json.MergePatch
import HealthLedger.Json.Numeral
import HealthLedger.Json.Printer
import HealthLedger.Json.Tree
import HealthLedger.Json.Tree.Scan
import HealthLedger.Json.Value
import HealthLedger.Log.Directive
import HealthLedger.Log.Event
import HealthLedger.Log.FieldValue
import HealthLedger.Log.Filter
import HealthLedger.Log.Pattern.Reader
import HealthLedger.Log.Pattern.Support
import HealthLedger.Log.Pattern.Tree
import HealthLedger.Log.Verbosity
import HealthLedger.Name
import HealthLedger.Number.Double
import HealthLedger.Number.Shortest
import HealthLedger.Proofs.Config.Environment
import HealthLedger.Proofs.Config.Precedence
import HealthLedger.Proofs.Config.Validity
import HealthLedger.Proofs.Document.Complete
import HealthLedger.Proofs.Document.Decoded
import HealthLedger.Proofs.Document.Faithful
import HealthLedger.Proofs.Document.Grammar
import HealthLedger.Proofs.Document.NormalForm
import HealthLedger.Proofs.Document.Part
import HealthLedger.Proofs.Document.ReadBack
import HealthLedger.Proofs.Document.Rewriting
import HealthLedger.Proofs.Document.RoundTrip
import HealthLedger.Proofs.Document.Timely
import HealthLedger.Proofs.Document.Transport
import HealthLedger.Proofs.Document.Vocabulary
import HealthLedger.Proofs.Http.Address
import HealthLedger.Proofs.Http.Api
import HealthLedger.Proofs.Http.Conversation
import HealthLedger.Proofs.Http.Double
import HealthLedger.Proofs.Http.Limits
import HealthLedger.Proofs.Http.Marks
import HealthLedger.Proofs.Http.Mirror
import HealthLedger.Proofs.Http.Requests
import HealthLedger.Proofs.Http.Rounds
import HealthLedger.Proofs.Http.Separation
import HealthLedger.Proofs.Http.Sequel
import HealthLedger.Proofs.Http.Targets
import HealthLedger.Proofs.Http.WriteBack
import HealthLedger.Proofs.Json.Editing
import HealthLedger.Proofs.Json.Integers
import HealthLedger.Proofs.Json.Members
import HealthLedger.Proofs.Json.Numbers
import HealthLedger.Proofs.Json.Printing
import HealthLedger.Proofs.Json.Reading
import HealthLedger.Proofs.Json.Scanned
import HealthLedger.Proofs.Json.Sendable
import HealthLedger.Proofs.Json.Strings
import HealthLedger.Proofs.Results
import HealthLedger.Proofs.State.Candor
import HealthLedger.Proofs.State.CompareAndSwap
import HealthLedger.Proofs.State.Contest
import HealthLedger.Proofs.State.Course
import HealthLedger.Proofs.State.CreateIfAbsent
import HealthLedger.Proofs.State.Custody
import HealthLedger.Proofs.State.Failure
import HealthLedger.Proofs.State.Isolation
import HealthLedger.Proofs.State.Ledger
import HealthLedger.Proofs.State.LostAnswers
import HealthLedger.Proofs.State.Operation
import HealthLedger.Proofs.State.Report
import HealthLedger.Proofs.State.Sequential
import HealthLedger.Proofs.State.Spelling
import HealthLedger.Proofs.Store.History
import HealthLedger.Proofs.Store.Interruption
import HealthLedger.Proofs.Store.Journal
import HealthLedger.Proofs.Store.Soundness
import HealthLedger.Proofs.Store.Survival
import HealthLedger.Proofs.Store.Telling
import HealthLedger.Proofs.Store.Tokens
import HealthLedger.Proofs.Store.Transcript
import HealthLedger.Proofs.Store.Turns
import HealthLedger.Proofs.Store.Twins
import HealthLedger.Proofs.Text.Lowercase
import HealthLedger.Proofs.Text.Percent
import HealthLedger.Proofs.Text.Utf8
import HealthLedger.Proofs.Time.Accepted
import HealthLedger.Proofs.Time.Calendar
import HealthLedger.Proofs.Time.Reading
import HealthLedger.State
import HealthLedger.Store.Error
import HealthLedger.Store.Faults
import HealthLedger.Store.Memory
import HealthLedger.Store.Program
import HealthLedger.Store.Schedule
import HealthLedger.Text.Alphanumeric
import HealthLedger.Text.Blank
import HealthLedger.Text.CaseMap
import HealthLedger.Text.Cased
import HealthLedger.Text.Charset
import HealthLedger.Text.Invisible
import HealthLedger.Text.Lowercase
import HealthLedger.Text.Percent
import HealthLedger.Text.Quoted
import HealthLedger.Text.Ranges
import HealthLedger.Text.Utf8
import HealthLedger.Time.Instant
import HealthLedger.Time.Printer
import HealthLedger.Time.Reader
import HealthLedger.Toml.Reader
import HealthLedger.Toml.Scalar
import HealthLedger.Toml.Table
import HealthLedger.Toml.Text
import HealthLedger.Toml.Value
