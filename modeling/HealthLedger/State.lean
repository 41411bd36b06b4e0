import HealthLedger.Name
import HealthLedger.Store.Program

/-!
# Check states and job phases

The operations on the documents of a store. Writers take no locks: an update carries the
version of the document it was made from, and the store refuses it if someone else has written
since. Such a conflict is returned to the caller, who may read and write again.

The state of a check is addressed by its sanitized name and a job by its name as it is given.
Every operation makes at most three calls, of which at most one writes.
-/

namespace HealthLedger.State

open Document (Workload Details Phase Resource CheckState CheckJob)
open Store (Program Call Answer Error ReadError ReadStep)

/-- The call that gets the state of a check. -/
def getState (name space : String) : Program (Answer .checkState) := .perform (.get name space)

/-- The call that gets a job. -/
def getJob (name space : String) : Program (Answer .checkJob) := .perform (.get name space)

/-- The call that updates the state of a check. -/
def updateState (state : CheckState) (space : String) : Program (Answer .checkState) :=
  .perform (.update state space)

/-- The call that updates a job. -/
def updateJob (job : CheckJob) (space : String) : Program (Answer .checkJob) :=
  .perform (.update job space)

/-- The empty state of a check. -/
def emptyState (name space : String) (workload : Workload) : CheckState :=
  .new name space (Details.new workload)

/-- Create a state that was not found. A state that someone else has created in the meantime is as
good. -/
def createState (name space : String) (workload : Workload) : Program (Except Error Unit) := do
  Program.say ⟨name, space, .creating workload⟩
  match ← Program.perform (.create (emptyState name space workload) space) with
  | .ok _ => return .ok ()
  | .error error =>
    if error.isAlreadyExists then
      Program.say ⟨name, space, .createdConcurrently⟩
      return .ok ()
    else return .error error

/-- Make sure that the state of a check exists. -/
def ensure (rawName space : String) (workload : Workload) : Program (Except Error Unit) := do
  let name := Name.sanitize rawName
  Program.say ⟨name, space, .checkingExistence⟩
  match ← getState name space with
  | .ok _ =>
    Program.say ⟨name, space, .found⟩
    return .ok ()
  | .error error =>
    if error.isNotFound then createState name space workload else return .error error

/-- Read the details of a check, whose state is created if there is none. -/
def read (rawName space : String) (workload : Workload) :
    Program (Except ReadError Details) := do
  let name := Name.sanitize rawName
  match ← ensure rawName space workload with
  | .error source => return .error ⟨.existence, name, space, source⟩
  | .ok () =>
    Program.say ⟨name, space, .retrieving⟩
    match ← getState name space with
    | .error source => return .error ⟨.fetch, name, space, source⟩
    | .ok state =>
      Program.say ⟨name, space, .retrieved⟩
      return .ok state.spec

/-- Write the details of a check in the name of a pod, at the current time. -/
def write (pod rawName space : String) (details : Details) :
    Program (Except Error CheckState) := do
  let name := Name.sanitize rawName
  match ← getState name space with
  | .error error => return .error error
  | .ok state =>
    let now ← Program.time
    let details : Details := { details with authoritativePod := pod, lastRun := some now }
    Program.say ⟨name, space, .writing details⟩
    let answer ← updateState { state with spec := details } space
    match answer with
    | .ok _ => return answer
    | .error error =>
      if error.isConflict then Program.say ⟨name, space, .stateChanged⟩
      return answer

/-- Change the phase of a job. -/
def setPhase (name space : String) (phase : Phase) : Program (Except Error CheckJob) := do
  match ← getJob name space with
  | .error error =>
    Program.say ⟨name, space, .jobFailed error⟩
    return .error error
  | .ok job =>
    let spec : Document.JobSpec := job.spec
    Program.say ⟨name, space, .settingPhase spec.phase phase⟩
    let answer ← updateJob { job with spec := { spec with phase } } space
    match answer with
    | .ok _ => return answer
    | .error error =>
      if error.isConflict then Program.say ⟨name, space, .jobChanged⟩
      return answer

/-- The greatest number of calls of an operation. -/
def callLimit : Nat := 3

end HealthLedger.State
