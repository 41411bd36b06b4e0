import HealthLedger.Document.Details
import HealthLedger.Document.JobSpec
import HealthLedger.Store.Error
import HealthLedger.Text.Quoted

/-!
# Log events

An event says what an operation on a state or a job does. It has a level, a message and named
fields, all of which are texts. Every event names the document it is about: the name, which is
the sanitized one for the state of a check, and the namespace.
-/

namespace HealthLedger.Log

open Document (Workload Details Phase)

/-- The levels of log events. -/
inductive Level where
  /-- Details that matter when something is traced. -/
  | trace
  /-- Details of normal work. -/
  | debug
  /-- What changes. -/
  | info
  /-- What may need attention. -/
  | warn
  /-- What failed. -/
  | error
  deriving Repr, DecidableEq

/-- The name of a level. -/
def Level.name : Level → String
  | .trace => "TRACE"
  | .debug => "DEBUG"
  | .info => "INFO"
  | .warn => "WARN"
  | .error => "ERROR"

/-- What an operation tells about a document. -/
inductive Action where
  /-- The state is looked up. -/
  | checkingExistence
  /-- The state is there. -/
  | found
  /-- The state is not there and is created for a workload. -/
  | creating (workload : Workload)
  /-- Someone else has created the state. -/
  | createdConcurrently
  /-- The state is fetched. -/
  | retrieving
  /-- The state has been fetched. -/
  | retrieved
  /-- Details are written. -/
  | writing (details : Details)
  /-- Someone else has written the state. -/
  | stateChanged
  /-- The job could not be fetched. -/
  | jobFailed (error : Store.Error)
  /-- The phase of the job is changed. -/
  | settingPhase (previous phase : Phase)
  /-- Someone else has written the job. -/
  | jobChanged
  deriving Repr, DecidableEq

/-- An action on the document of a name and a namespace. -/
structure Event where
  /-- The name of the document. -/
  name : String
  /-- The namespace of the document. -/
  space : String
  /-- What is told about it. -/
  action : Action
  deriving Repr, DecidableEq

/-- The level of an action. -/
def Action.level : Action → Level
  | .creating _ => .info
  | .settingPhase _ _ => .info
  | .stateChanged => .warn
  | .jobChanged => .warn
  | .jobFailed _ => .error
  | _ => .debug

/-- The message of an action. -/
def Action.message : Action → String
  | .checkingExistence => "checking existence of state resource"
  | .found => "state resource found"
  | .creating _ => "state resource not found, creating it"
  | .createdConcurrently => "state resource created concurrently"
  | .retrieving => "retrieving state resource"
  | .retrieved => "retrieved state resource"
  | .writing _ => "writing check state"
  | .stateChanged => "check state changed since it was read"
  | .jobFailed _ => "error getting check job"
  | .settingPhase _ _ => "setting check job phase"
  | .jobChanged => "check job changed since it was read"

/-- The text of a time that may be absent. -/
def timeText : Option Time.Instant → String
  | none => "None"
  | some instant => "Some(" ++ instant.text ++ ")"

/-- The fields of an action. -/
def Action.fields : Action → List (String × String)
  | .creating workload => [("workload", workload.name)]
  | .writing details =>
    [("ok", toString details.ok), ("errors", Text.quotedList details.errors),
     ("last_run", timeText details.lastRun)]
  | .jobFailed error => [("error", error.message)]
  | .settingPhase previous phase => [("previous", previous.token), ("phase", phase.token)]
  | _ => []

/-- The level of an event. -/
def Event.level (event : Event) : Level := event.action.level

/-- The message of an event. -/
def Event.message (event : Event) : String := event.action.message

/-- The fields of an event. -/
def Event.fields (event : Event) : List (String × String) :=
  [("namespace", event.space), ("name", event.name)] ++ event.action.fields

end HealthLedger.Log
