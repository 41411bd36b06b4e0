import HealthLedger.Proofs.State.Candor
import HealthLedger.Proofs.State.Isolation
import HealthLedger.Proofs.Store.Telling

/-!
# What the log says of an operation

The log of an operation on states and jobs agrees with its calls and their answers, whatever the
store answers (`Operation.log_tells_calls`): there is a warning if and only if the update met a
conflict, an error if and only if the job could not be got, and a piece of information for every
create and every change of a phase. Nothing else is told but details. What stands above the details
is found once from the program of the operation (`Operation.notes_of_follows`), one case for each
way the calls can go (`Operation.Notes`), and the agreement is read off these cases.
-/

namespace HealthLedger.Log

/-- The text of a field of an event. -/
def Event.field? (event : Event) (name : String) : Option String := event.fields.lookup name

/-- The event informs that a state is created. -/
def Event.isCreation (event : Event) : Bool :=
  event.level = .info && event.message = "state resource not found, creating it"

/-- The event informs that the phase of a job is changed. -/
def Event.isTransition (event : Event) : Bool :=
  event.level = .info && event.message = "setting check job phase"

/-- The event is more than a detail. -/
def Event.isNote (event : Event) : Bool := event.level ≠ .debug

/-- An event of another level than that of the details is more than a detail. -/
theorem Event.isNote_of_level {event : Event} {level : Level} (told : event.level = level)
    (loud : level ≠ .debug) : event.isNote :=
  decide_eq_true (told ▸ loud)

/-- An event that informs of a creation is more than a detail. -/
theorem Event.isNote_of_isCreation {event : Event} (told : event.isCreation) : event.isNote := by
  have info : event.level = .info := by simpa using (Bool.and_eq_true_iff.1 told).1
  exact isNote_of_level info (by decide)

/-- An event that informs of a change of a phase is more than a detail. -/
theorem Event.isNote_of_isTransition {event : Event} (told : event.isTransition) :
    event.isNote := by
  have info : event.level = .info := by simpa using (Bool.and_eq_true_iff.1 told).1
  exact isNote_of_level info (by decide)

/-- Exactly one of the events is of a kind if a condition holds, and none is if it does not. -/
structure ToldOnceIff (events : List Event) (kind : Event → Bool) (condition : Prop) : Prop where
  /-- There is one if the condition holds. -/
  once : condition → events.countP kind = 1
  /-- There is none if it does not. -/
  never : ¬condition → events.countP kind = 0

namespace ToldOnceIff

variable {events : List Event} {kind : Event → Bool} {condition : Prop}

/-- There is one, and the condition holds. -/
theorem of_holds (holds : condition) (once : events.countP kind = 1) :
    ToldOnceIff events kind condition :=
  ⟨fun _ => once, fun fails => absurd holds fails⟩

/-- There is none, and the condition does not hold. -/
theorem of_fails (fails : ¬condition) (never : events.countP kind = 0) :
    ToldOnceIff events kind condition :=
  ⟨fun holds => absurd holds fails, fun _ => never⟩

/-- Events that are more than details are counted without the details. -/
theorem of_notes (notes : ∀ event, kind event → event.isNote)
    (told : ToldOnceIff (events.filter Event.isNote) kind condition) :
    ToldOnceIff events kind condition := by
  have same : (events.filter Event.isNote).countP kind = events.countP kind := by
    rw [List.countP_filter]
    refine List.countP_congr fun event _ => ?_
    simpa using notes event
  exact ⟨fun holds => same ▸ told.once holds, fun fails => same ▸ told.never fails⟩

end ToldOnceIff

end HealthLedger.Log

namespace HealthLedger.Store

/-- The answer is a conflict. -/
def Answer.conflicts {kind : Document.Kind} : Answer kind → Bool
  | .ok _ => false
  | .error error => error.isConflict

end HealthLedger.Store

namespace HealthLedger.State

open Document (Kind CheckState CheckJob JobSpec Details Phase Workload)
open Log (Event Action ToldOnceIff)
open Store (Program Call Answer Error Exchange Repository Clock World)

namespace Operation

/-- The operation is to set a phase, and the get of its job fails. -/
def MissesJob (operation : Operation) (exchanges : List Exchange) (error : Error) : Prop :=
  ∃ name space phase, operation = .setPhase name space phase ∧
    .alone (.get name space : Call .checkJob) (.error error) ∈ exchanges

/-- The operation is to set a phase, and the get of its job returns the job. -/
def GetsJob (operation : Operation) (exchanges : List Exchange) (job : CheckJob) (phase : Phase) :
    Prop :=
  ∃ name space, operation = .setPhase name space phase ∧
    .alone (.get name space : Call .checkJob) (.ok job) ∈ exchanges

/-- The operation is to set a phase, and it makes an update. -/
def UpdatesJob (operation : Operation) (exchanges : List Exchange) : Prop :=
  (∃ name space phase, operation = .setPhase name space phase) ∧
    ∃ exchange ∈ exchanges, exchange.request.isUpdate

/-- The events of an operation agree with its calls and their answers. -/
structure Reports (operation : Operation) (exchanges : List Exchange) (events : List Event) :
    Prop where
  /-- There is a warning if the update was answered with a conflict, and no other. -/
  warns : ToldOnceIff events (·.level = .warn)
    (∃ exchange ∈ exchanges, exchange.request.isUpdate ∧ exchange.answer.conflicts)
  /-- There is an error if a job was not got, and no other. -/
  fails : ToldOnceIff events (·.level = .error) (∃ error, operation.MissesJob exchanges error)
  /-- An error is told in the wording of the failure. -/
  reason : ∀ event ∈ events, event.level = .error → ∃ error,
    operation.MissesJob exchanges error ∧ event.field? "error" = some error.message
  /-- It is told that a state is created if there is a create, and never otherwise. -/
  creates : ToldOnceIff events Event.isCreation (∃ exchange ∈ exchanges, exchange.request.isCreate)
  /-- A creation is told with the workload that was asked for. -/
  workload : ∀ event ∈ events, event.isCreation → ∃ consultation,
    operation.consultation? = some consultation ∧
      event.field? "workload" = some consultation.workload.name
  /-- It is told that a phase is changed if there is an update of a job, and never otherwise. -/
  changes : ToldOnceIff events Event.isTransition (operation.UpdatesJob exchanges)
  /-- A change is told with the phase of the job that was got and with the new one. -/
  phases : ∀ event ∈ events, event.isTransition → ∃ job phase,
    operation.GetsJob exchanges job phase ∧
      event.field? "previous" = some (JobSpec.phase job.spec).token ∧
        event.field? "phase" = some phase.token
  /-- No other information is told. -/
  nothingElse : ∀ event ∈ events, event.level = .info → event.isCreation ∨ event.isTransition
  /-- Every event carries the name and the namespace of the document: a check goes by its sanitized
  name and a job by its name as it is given. -/
  names : ∀ event ∈ events, event.field? "name" = some operation.key.name ∧
    event.field? "namespace" = some operation.key.space

/-- What a writer tells of the answer to its update. -/
def warnings {kind : Kind} (changed : Action) (answer : Answer kind) : List Action :=
  if answer.conflicts then [changed] else []

/-- What an operation on states and jobs asks, and what it tells above the details. -/
inductive Notes : Operation → List Exchange → List Action → Prop
  /-- A reader asks for its state, once or more often. -/
  | looked {operation : Operation} {consultation : Consultation}
    (reads : operation.consultation? = some consultation) (answer : Answer .checkState)
    (more : List (Answer .checkState)) :
    Notes operation (consultation.gets answer :: more.map consultation.gets) []
  /-- A reader creates its state. -/
  | created {operation : Operation} {consultation : Consultation}
    (reads : operation.consultation? = some consultation) (missing : Error)
    (answer : Answer .checkState) (more : List (Answer .checkState)) :
    Notes operation
      (consultation.gets (.error missing) :: consultation.creates answer ::
        more.map consultation.gets) [.creating consultation.workload]
  /-- The state to write was not got. -/
  | unwritten {pod rawName space : String} {details : Details} (error : Error) :
    Notes (.write pod rawName space details)
      [.alone (.get (Name.sanitize rawName) space : Call .checkState) (.error error)] []
  /-- The state is written. -/
  | written {pod rawName space : String} {details : Details} (state : CheckState)
    (now : Time.Instant) (answer : Answer .checkState) :
    Notes (.write pod rawName space details)
      [.alone (.get (Name.sanitize rawName) space : Call .checkState) (.ok state),
        .alone (.update (revisedState pod details now state) space) answer]
      (warnings .stateChanged answer)
  /-- The job was not got. -/
  | missed {name space : String} {phase : Phase} (error : Error) :
    Notes (.setPhase name space phase)
      [.alone (.get name space : Call .checkJob) (.error error)] [.jobFailed error]
  /-- The phase of the job is changed. -/
  | changed {name space : String} {phase : Phase} (job : CheckJob) (answer : Answer .checkJob) :
    Notes (.setPhase name space phase)
      [.alone (.get name space : Call .checkJob) (.ok job),
        .alone (.update (revisedJob phase job) space) answer]
      (.settingPhase (JobSpec.phase job.spec) phase :: warnings .jobChanged answer)

variable {operation : Operation} {exchanges : List Exchange} {told : List Event}

/-- What is more than details of some actions. -/
def notesOf (actions : List Action) : List Action := actions.filter (·.level ≠ .debug)

/-- Creating a state is told before the create, and nothing else above the details. -/
theorem told_of_createState {name space : String} {workload : Workload}
    {result : Except Error Unit}
    (follows : (createState name space workload).heard.Follows exchanges (result, told)) :
    ∃ answer details, exchanges = [Consultation.creates ⟨name, space, workload⟩ answer] ∧
      told = (.creating workload :: details).map (Event.mk name space) ∧ notesOf details = [] := by
  obtain ⟨later, rfl, answer, rest, rfl, goesOn⟩ := Program.Follows.of_heard_tell follows
  cases answer with
  | ok state =>
    obtain ⟨rfl, rfl, rfl⟩ := Program.Follows.of_heard_done goesOn
    exact ⟨.ok state, [], rfl, rfl, rfl⟩
  | error error =>
    change Program.Follows (Program.heard (if error.isAlreadyExists then .tell _ (.done _) else
      .done _)) _ _ at goesOn
    split at goesOn
    · next present =>
      obtain ⟨last, rfl, ends⟩ := Program.Follows.of_heard_tell goesOn
      obtain ⟨rfl, rfl, rfl⟩ := Program.Follows.of_heard_done ends
      exact ⟨.error error, [.createdConcurrently], rfl, rfl, rfl⟩
    · next other =>
      obtain ⟨rfl, rfl, rfl⟩ := Program.Follows.of_heard_done goesOn
      exact ⟨.error error, [], rfl, rfl, rfl⟩

/-- Making sure of a state tells that the state is created, and nothing else above the details. The
state may be asked for again later. -/
theorem notes_of_ensure {rawName space : String} {workload : Workload} {result : Except Error Unit}
    (reads : operation.consultation? = some ⟨Name.sanitize rawName, space, workload⟩)
    (follows : (State.ensure rawName space workload).heard.Follows exchanges (result, told)) :
    ∃ actions : List Action, told = actions.map (Event.mk (Name.sanitize rawName) space) ∧
      ∀ more : List (Answer .checkState), operation.Notes
        (exchanges ++ more.map (Consultation.gets ⟨Name.sanitize rawName, space, workload⟩))
        (notesOf actions) := by
  obtain ⟨later, rfl, answer, rest, rfl, goesOn⟩ := Program.Follows.of_heard_tell follows
  cases answer with
  | ok state =>
    obtain ⟨last, rfl, ends⟩ := Program.Follows.of_heard_tell goesOn
    obtain ⟨rfl, rfl, rfl⟩ := Program.Follows.of_heard_done ends
    exact ⟨[.checkingExistence, .found], rfl, fun more => .looked reads (.ok state) more⟩
  | error missing =>
    change Program.Follows (Program.heard (if missing.isNotFound then createState _ _ _ else
      .done _)) _ _ at goesOn
    split at goesOn
    · next absent =>
      obtain ⟨answer, details, rfl, rfl, quiet⟩ := told_of_createState goesOn
      refine ⟨.checkingExistence :: .creating workload :: details, rfl, fun more => ?_⟩
      change operation.Notes _ (.creating workload :: notesOf details)
      rw [quiet]
      exact .created reads missing answer more
    · next other =>
      obtain ⟨rfl, rfl, rfl⟩ := Program.Follows.of_heard_done goesOn
      exact ⟨[.checkingExistence], rfl, fun more => .looked reads (.error missing) more⟩

/-- Reading the details of a state tells nothing more above the details. -/
theorem notes_of_read {rawName space : String} {workload : Workload}
    {result : Except Store.ReadError Details}
    (follows : (State.read rawName space workload).heard.Follows exchanges (result, told)) :
    ∃ actions : List Action, told = actions.map (Event.mk (Name.sanitize rawName) space) ∧
      (Operation.read rawName space workload).Notes exchanges (notesOf actions) := by
  obtain ⟨first, second, assured, before, after, rfl, rfl, begins, goesOn⟩ :=
    Program.Follows.of_heard_bind follows
  have reads : (Operation.read rawName space workload).consultation? =
      some ⟨Name.sanitize rawName, space, workload⟩ := rfl
  obtain ⟨actions, rfl, notes⟩ := notes_of_ensure reads begins
  cases assured with
  | error error =>
    obtain ⟨rfl, rfl, rfl⟩ := Program.Follows.of_heard_done goesOn
    exact ⟨actions, List.append_nil _, notes []⟩
  | ok done =>
    obtain ⟨later, rfl, answer, rest, rfl, ends⟩ := Program.Follows.of_heard_tell goesOn
    cases answer with
    | error error =>
      obtain ⟨rfl, rfl, rfl⟩ := Program.Follows.of_heard_done ends
      refine ⟨actions ++ [.retrieving], by rw [List.map_append]; rfl, ?_⟩
      rw [notesOf, List.filter_append]
      exact (List.append_nil _).symm ▸ notes [.error error]
    | ok state =>
      obtain ⟨last, rfl, done⟩ := Program.Follows.of_heard_tell ends
      obtain ⟨rfl, rfl, rfl⟩ := Program.Follows.of_heard_done done
      refine ⟨actions ++ [.retrieving, .retrieved], by rw [List.map_append]; rfl, ?_⟩
      rw [notesOf, List.filter_append]
      exact (List.append_nil _).symm ▸ notes [.ok state]

/-- A conflict is more than a detail. -/
theorem notesOf_warnings {kind : Kind} (changed : Action) (loud : changed.level ≠ .debug)
    (answer : Answer kind) : notesOf (warnings changed answer) = warnings changed answer := by
  unfold warnings
  split
  · exact List.filter_cons_of_pos (decide_eq_true loud)
  · rfl

/-- Behind its update a writer tells nothing but that it met a conflict. -/
theorem told_of_conflict {α : Type} {conflict : Bool} {name space : String} {changed : Action}
    {answer result : α}
    (follows : Program.Follows (Program.heard (if conflict then
      .tell ⟨name, space, changed⟩ (.done answer) else .done answer)) exchanges (result, told)) :
    exchanges = [] ∧ told = (if conflict then [changed] else []).map (Event.mk name space) := by
  cases conflict with
  | false =>
    obtain ⟨rfl, rfl, -⟩ := Program.Follows.of_heard_done follows
    exact ⟨rfl, rfl⟩
  | true =>
    obtain ⟨last, rfl, ends⟩ := Program.Follows.of_heard_tell follows
    obtain ⟨rfl, rfl, -⟩ := Program.Follows.of_heard_done ends
    exact ⟨rfl, rfl⟩

/-- Writing details tells of a conflict, and nothing else above the details. -/
theorem notes_of_write {pod rawName space : String} {details : Details}
    {result : Answer .checkState}
    (follows : (State.write pod rawName space details).heard.Follows exchanges (result, told)) :
    ∃ actions : List Action, told = actions.map (Event.mk (Name.sanitize rawName) space) ∧
      (Operation.write pod rawName space details).Notes exchanges (notesOf actions) := by
  obtain ⟨got, rest, rfl, goesOn⟩ := follows
  cases got with
  | error error =>
    obtain ⟨rfl, rfl, rfl⟩ := Program.Follows.of_heard_done goesOn
    exact ⟨[], rfl, .unwritten error⟩
  | ok state =>
    obtain ⟨now, goesOn⟩ := goesOn
    obtain ⟨later, rfl, answer, rest, rfl, ends⟩ := Program.Follows.of_heard_tell goesOn
    have notes : (Operation.write pod rawName space details).Notes _ _ :=
      .written state now answer
    rw [← notesOf_warnings .stateChanged (by decide) answer] at notes
    refine ⟨.writing { details with authoritativePod := pod, lastRun := some now } ::
      warnings .stateChanged answer, ?_⟩
    cases answer with
    | ok written =>
      obtain ⟨rfl, rfl, rfl⟩ := Program.Follows.of_heard_done ends
      exact ⟨rfl, notes⟩
    | error error =>
      obtain ⟨rfl, rfl⟩ := told_of_conflict ends
      exact ⟨rfl, notes⟩

/-- Changing a phase tells why the job was not got, or the change and a conflict. -/
theorem notes_of_setPhase {name space : String} {phase : Phase} {result : Answer .checkJob}
    (follows : (State.setPhase name space phase).heard.Follows exchanges (result, told)) :
    ∃ actions : List Action, told = actions.map (Event.mk name space) ∧
      (Operation.setPhase name space phase).Notes exchanges (notesOf actions) := by
  obtain ⟨got, rest, rfl, goesOn⟩ := follows
  cases got with
  | error error =>
    obtain ⟨last, rfl, ends⟩ := Program.Follows.of_heard_tell goesOn
    obtain ⟨rfl, rfl, rfl⟩ := Program.Follows.of_heard_done ends
    exact ⟨[.jobFailed error], rfl, .missed error⟩
  | ok job =>
    obtain ⟨later, rfl, answer, rest, rfl, ends⟩ := Program.Follows.of_heard_tell goesOn
    have notes : (Operation.setPhase name space phase).Notes _ _ := .changed job answer
    rw [← notesOf_warnings .jobChanged (by decide) answer] at notes
    refine ⟨.settingPhase (JobSpec.phase job.spec) phase :: warnings .jobChanged answer, ?_⟩
    cases answer with
    | ok written =>
      obtain ⟨rfl, rfl, rfl⟩ := Program.Follows.of_heard_done ends
      exact ⟨rfl, notes⟩
    | error error =>
      obtain ⟨rfl, rfl⟩ := told_of_conflict ends
      exact ⟨rfl, notes⟩

/-- What an operation on states and jobs tells is about its document, and above the details it is
one of a few notes. -/
theorem notes_of_follows {outcome : Outcome} (onStates : operation.OnStates)
    (follows : operation.program.heard.Follows exchanges (outcome, told)) :
    ∃ actions : List Action,
      told = actions.map (Event.mk operation.key.name operation.key.space) ∧
        operation.Notes exchanges (notesOf actions) := by
  cases operation with
  | ensure rawName space workload =>
    obtain ⟨result, rfl, ensures⟩ := Program.Follows.of_heard_map follows
    have reads : (Operation.ensure rawName space workload).consultation? =
        some ⟨Name.sanitize rawName, space, workload⟩ := rfl
    obtain ⟨actions, rfl, notes⟩ := notes_of_ensure reads ensures
    exact ⟨actions, rfl, List.append_nil exchanges ▸ notes []⟩
  | read rawName space workload =>
    obtain ⟨result, rfl, reads⟩ := Program.Follows.of_heard_map follows
    exact notes_of_read reads
  | write pod rawName space details =>
    obtain ⟨result, rfl, writes⟩ := Program.Follows.of_heard_map follows
    exact notes_of_write writes
  | setPhase name space phase =>
    obtain ⟨result, rfl, sets⟩ := Program.Follows.of_heard_map follows
    exact notes_of_setPhase sets
  | ask call => exact onStates.elim

/-- What an action that is told above the details is founded on. -/
inductive Grounds (operation : Operation) (exchanges : List Exchange) : Action → Prop
  /-- A reader creates its state. -/
  | created {consultation : Consultation}
    (reads : operation.consultation? = some consultation) :
    Grounds operation exchanges (.creating consultation.workload)
  /-- A writer warns. -/
  | conflict {action : Action} (warning : action.level = .warn) :
    Grounds operation exchanges action
  /-- A job was not got. -/
  | missed {error : Error} (misses : operation.MissesJob exchanges error) :
    Grounds operation exchanges (.jobFailed error)
  /-- The phase of a job is changed. -/
  | changed {job : CheckJob} {phase : Phase} (gets : operation.GetsJob exchanges job phase) :
    Grounds operation exchanges (.settingPhase (JobSpec.phase job.spec) phase)

/-- A writer tells of nothing but a conflict. -/
theorem eq_of_mem_warnings {kind : Kind} {changed action : Action} {answer : Answer kind}
    (told : action ∈ warnings changed answer) : action = changed := by
  unfold warnings at told
  split at told
  · exact List.mem_singleton.1 told
  · exact absurd told List.not_mem_nil

/-- Among what a writer tells of its update there is nothing of a kind to which telling of a
conflict does not belong. -/
theorem countP_warnings {kind : Kind} {changed : Action} {answer : Answer kind}
    {name space : String} {sort : Event → Bool} (other : ¬sort ⟨name, space, changed⟩) :
    ((warnings changed answer).map (Event.mk name space)).countP sort = 0 := by
  refine List.countP_eq_zero.2 fun event there => ?_
  obtain ⟨action, told, rfl⟩ := List.mem_map.1 there
  obtain rfl := eq_of_mem_warnings told
  exact other

namespace Notes

variable {actions : List Action} {name space : String}

/-- There is a warning if the update was answered with a conflict, and no other. -/
theorem warns (notes : operation.Notes exchanges actions) :
    ToldOnceIff (actions.map (Event.mk name space)) (·.level = .warn)
      (∃ exchange ∈ exchanges, exchange.request.isUpdate ∧ exchange.answer.conflicts) := by
  cases notes with
  | looked | created | unwritten | missed =>
    refine .of_fails ?_ rfl
    simp [Consultation.gets, Consultation.creates, Exchange.alone, Call.isUpdate]
  | written state now answer | changed job answer =>
    cases conflict : answer.conflicts with
    | true =>
      refine .of_holds ⟨_, List.mem_cons_of_mem _ (List.mem_singleton_self _), rfl, conflict⟩ ?_
      rw [warnings, if_pos conflict]
      rfl
    | false =>
      refine .of_fails ?_ ?_
      · simp [Exchange.alone, Call.isUpdate, conflict]
      · simp [warnings, conflict, Event.level, Action.level]

/-- There is an error if a job was not got, and no other. -/
theorem fails (notes : operation.Notes exchanges actions) :
    ToldOnceIff (actions.map (Event.mk name space)) (·.level = .error)
      (∃ error, operation.MissesJob exchanges error) := by
  cases notes with
  | looked reads | created reads =>
    refine .of_fails ?_ rfl
    rintro ⟨error, name, space, phase, rfl, -⟩
    contradiction
  | unwritten => exact .of_fails (by rintro ⟨error, name, space, phase, same, -⟩; contradiction) rfl
  | written state now answer =>
    refine .of_fails ?_ (countP_warnings Bool.false_ne_true)
    rintro ⟨error, name, space, phase, same, -⟩
    contradiction
  | missed error => exact .of_holds ⟨error, _, _, _, rfl, List.mem_singleton_self _⟩ rfl
  | changed job answer =>
    refine .of_fails ?_ (countP_warnings Bool.false_ne_true)
    rintro ⟨error, name, space, phase, same, there⟩
    simp [Exchange.alone] at there

/-- It is told that a state is created if there is a create, and never otherwise. -/
theorem creates (notes : operation.Notes exchanges actions) :
    ToldOnceIff (actions.map (Event.mk name space)) Event.isCreation
      (∃ exchange ∈ exchanges, exchange.request.isCreate) := by
  cases notes with
  | looked | unwritten | missed =>
    refine .of_fails ?_ rfl
    simp [Consultation.gets, Exchange.alone, Call.isCreate]
  | created reads missing answer more =>
    exact .of_holds ⟨_, List.mem_cons_of_mem _ List.mem_cons_self, rfl⟩ rfl
  | written state now answer | changed job answer =>
    refine .of_fails ?_ (countP_warnings Bool.false_ne_true)
    simp [Exchange.alone, Call.isCreate]

/-- It is told that a phase is changed if there is an update of a job, and never otherwise. -/
theorem changes (notes : operation.Notes exchanges actions) :
    ToldOnceIff (actions.map (Event.mk name space)) Event.isTransition
      (operation.UpdatesJob exchanges) := by
  cases notes with
  | looked reads | created reads =>
    refine .of_fails ?_ rfl
    rintro ⟨⟨name, space, phase, rfl⟩, -⟩
    contradiction
  | unwritten => exact .of_fails (by rintro ⟨⟨name, space, phase, same⟩, -⟩; contradiction) rfl
  | written state now answer =>
    refine .of_fails ?_ (countP_warnings Bool.false_ne_true)
    rintro ⟨⟨name, space, phase, same⟩, -⟩
    contradiction
  | missed error =>
    refine .of_fails ?_ rfl
    rintro ⟨-, updated⟩
    simp [Exchange.alone, Call.isUpdate] at updated
  | changed job answer =>
    refine .of_holds ⟨⟨_, _, _, rfl⟩, _, List.mem_cons_of_mem _ List.mem_cons_self, rfl⟩ ?_
    rw [List.map_cons, List.countP_cons_of_pos rfl, countP_warnings Bool.false_ne_true]

/-- What is told above the details has its grounds. -/
theorem grounds (notes : operation.Notes exchanges actions) {action : Action}
    (noted : action ∈ actions) : operation.Grounds exchanges action := by
  cases notes with
  | looked | unwritten => exact absurd noted List.not_mem_nil
  | created reads =>
    obtain rfl := List.mem_singleton.1 noted
    exact .created reads
  | written state now answer =>
    obtain rfl := eq_of_mem_warnings noted
    exact .conflict rfl
  | missed error =>
    obtain rfl := List.mem_singleton.1 noted
    exact .missed ⟨_, _, _, rfl, List.mem_singleton_self _⟩
  | changed job answer =>
    obtain rfl | conflict := List.mem_cons.1 noted
    · exact .changed ⟨_, _, rfl, List.mem_cons_self⟩
    · obtain rfl := eq_of_mem_warnings conflict
      exact .conflict rfl

end Notes

namespace Grounds

variable {action : Action} {name space : String}

/-- An error is told in the wording of the failure. -/
theorem reason (grounds : operation.Grounds exchanges action)
    (isError : (Event.mk name space action).level = .error) :
    ∃ error, operation.MissesJob exchanges error ∧
      (Event.mk name space action).field? "error" = some error.message := by
  cases grounds with
  | created | changed => contradiction
  | conflict warning => exact absurd (warning.symm.trans isError) (by decide)
  | missed misses => exact ⟨_, misses, rfl⟩

/-- A creation is told with the workload that was asked for. -/
theorem workload (grounds : operation.Grounds exchanges action)
    (isCreation : (Event.mk name space action).isCreation) :
    ∃ consultation, operation.consultation? = some consultation ∧
      (Event.mk name space action).field? "workload" = some consultation.workload.name := by
  cases grounds with
  | created reads => exact ⟨_, reads, rfl⟩
  | conflict warning => simp [Event.isCreation, Event.level, warning] at isCreation
  | missed | changed => contradiction

/-- A change is told with the phase of the job that was got and with the new one. -/
theorem phases (grounds : operation.Grounds exchanges action)
    (isTransition : (Event.mk name space action).isTransition) :
    ∃ job phase, operation.GetsJob exchanges job phase ∧
      (Event.mk name space action).field? "previous" = some (JobSpec.phase job.spec).token ∧
        (Event.mk name space action).field? "phase" = some phase.token := by
  cases grounds with
  | created | missed => contradiction
  | conflict warning => simp [Event.isTransition, Event.level, warning] at isTransition
  | changed gets => exact ⟨_, _, gets, rfl, rfl⟩

/-- No other information is told. -/
theorem nothingElse (grounds : operation.Grounds exchanges action)
    (isInfo : (Event.mk name space action).level = .info) :
    (Event.mk name space action).isCreation ∨ (Event.mk name space action).isTransition := by
  cases grounds with
  | created => exact .inl rfl
  | conflict warning => exact absurd (warning.symm.trans isInfo) (by decide)
  | missed => contradiction
  | changed => exact .inr rfl

end Grounds

/-- What an operation on states and jobs tells agrees with its calls and the answers it is given. -/
theorem reports_of_follows {outcome : Outcome} (onStates : operation.OnStates)
    (follows : operation.program.heard.Follows exchanges (outcome, told)) :
    operation.Reports exchanges told := by
  obtain ⟨actions, rfl, notes⟩ := notes_of_follows onStates follows
  have above : (actions.map (Event.mk operation.key.name operation.key.space)).filter
      Event.isNote = (notesOf actions).map (Event.mk _ _) := List.filter_map
  have grounded : ∀ event ∈ actions.map (Event.mk operation.key.name operation.key.space),
      event.isNote → ∃ action, operation.Grounds exchanges action ∧
        event = ⟨operation.key.name, operation.key.space, action⟩ := by
    intro event there note
    obtain ⟨action, told, rfl⟩ := List.mem_map.1 there
    exact ⟨action, notes.grounds (List.mem_filter.2 ⟨told, note⟩), rfl⟩
  constructor
  case warns =>
    exact .of_notes (fun event warning => Event.isNote_of_level (of_decide_eq_true warning)
      (by decide)) (above ▸ notes.warns)
  case fails =>
    exact .of_notes (fun event isError => Event.isNote_of_level (of_decide_eq_true isError)
      (by decide)) (above ▸ notes.fails)
  case reason =>
    intro event there isError
    obtain ⟨action, grounds, rfl⟩ :=
      grounded event there (Event.isNote_of_level isError (by decide))
    exact grounds.reason isError
  case creates =>
    exact .of_notes (fun event => Event.isNote_of_isCreation) (above ▸ notes.creates)
  case workload =>
    intro event there isCreation
    obtain ⟨action, grounds, rfl⟩ := grounded event there (Event.isNote_of_isCreation isCreation)
    exact grounds.workload isCreation
  case changes =>
    exact .of_notes (fun event => Event.isNote_of_isTransition) (above ▸ notes.changes)
  case phases =>
    intro event there isTransition
    obtain ⟨action, grounds, rfl⟩ :=
      grounded event there (Event.isNote_of_isTransition isTransition)
    exact grounds.phases isTransition
  case nothingElse =>
    intro event there isInfo
    obtain ⟨action, grounds, rfl⟩ :=
      grounded event there (Event.isNote_of_level isInfo (by decide))
    exact grounds.nothingElse isInfo
  case names =>
    intro event there
    obtain ⟨action, told, rfl⟩ := List.mem_map.1 there
    exact ⟨rfl, rfl⟩

/-- The log of an operation on states and jobs agrees with its calls and their answers, whatever
the store answers. -/
theorem log_tells_calls {σ : Type} (repository : Repository σ) (clock : Clock) (world : World σ)
    (onStates : operation.OnStates) :
    ∃ told, (operation.program.run repository clock world).2.events = world.events ++ told ∧
      operation.Reports (operation.program.transcript repository clock world) told := by
  obtain ⟨told, grown, follows⟩ :=
    Program.heard_follows_transcript repository clock operation.program world
  exact ⟨told, grown, reports_of_follows onStates follows⟩

/-- A store in which every job runs and someone else is always faster. -/
def contestedJobs : Repository Unit where
  perform {kind} call state :=
    match kind, call with
    | .checkJob, .get name space => (.ok (.new name space ⟨.running, .empty⟩), state)
    | _, call => (.error ⟨call.key, .conflict⟩, state)

/-- A change of a phase that meets a conflict is told with both phases, and then the conflict. -/
theorem contested_phase_told :
    let operation : Operation := .setPhase "Nightly Job" "ops" .completed
    let world : World Unit := { state := () }
    let events := (operation.program.run contestedJobs (fun _ => default) world).2.events
    operation.OnStates ∧
      (∃ told, events = [] ++ told ∧
        operation.Reports (operation.program.transcript contestedJobs (fun _ => default) world)
          told) ∧
      events.map (fun event => (event.level, event.message, event.fields)) =
        [(.info, "setting check job phase",
            [("namespace", "ops"), ("name", "Nightly Job"), ("previous", "Running"),
              ("phase", "Completed")]),
          (.warn, "check job changed since it was read",
            [("namespace", "ops"), ("name", "Nightly Job")])] := by
  intro operation world events
  have onStates : operation.OnStates := trivial
  exact ⟨onStates, log_tells_calls contestedJobs (fun _ => default) world onStates, rfl⟩

end Operation

end HealthLedger.State
