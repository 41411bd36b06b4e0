import HealthLedger.Proofs.State.Operation
import HealthLedger.Proofs.Store.Journal
import HealthLedger.Proofs.Store.Transcript

/-!
# The course of an operation

What an operation on states and jobs asks, with what it is answered, and what it comes to is one of
a few courses, whatever the store is (`Operation.course_of_follows`): making sure of a state takes
one of five (`Assurance`), after which the details of the state may be got, and a writer gets a
document and updates it. Facts about all runs of operations are proved by cases on their course.
-/

namespace HealthLedger.State

open Document (Workload Details Phase Resource CheckState)
open Store (Program Answer Error Exchange Repository Clock World)

/-- The exchange in which a reader gets its state. -/
def Consultation.gets (consultation : Consultation) (answer : Answer .checkState) : Exchange :=
  .alone (.get consultation.name consultation.space) answer

/-- The exchange in which a reader creates its state. -/
def Consultation.creates (consultation : Consultation) (answer : Answer .checkState) : Exchange :=
  .alone (.create consultation.state consultation.space) answer

/-- The exchange in which a writer gets a document. -/
def Revision.gets (revision : Revision) (answer : Answer revision.key.kind) : Exchange :=
  .alone (.get revision.key.name revision.key.space) answer

/-- The exchange in which a writer puts what it makes of a document at a time. -/
def Revision.puts (revision : Revision) (now : Time.Instant)
    (document : Resource revision.key.kind) (answer : Answer revision.key.kind) : Exchange :=
  .alone (.update (revision.revise now document) revision.key.space) answer

/-- What making sure of a state asks, and what it comes to. -/
inductive Assurance (consultation : Consultation) : List Exchange → Except Error Unit → Prop
  /-- The state is found. -/
  | found (state : CheckState) : Assurance consultation [consultation.gets (.ok state)] (.ok ())
  /-- It is not known whether there is one. -/
  | unknown {error : Error} (other : error.isNotFound = false) :
    Assurance consultation [consultation.gets (.error error)] (.error error)
  /-- The state is not found and is created. -/
  | created {missing : Error} (absent : missing.isNotFound) (state : CheckState) :
    Assurance consultation
      [consultation.gets (.error missing), consultation.creates (.ok state)] (.ok ())
  /-- The state is not found, and someone else has created it. -/
  | taken {missing error : Error} (absent : missing.isNotFound) (present : error.isAlreadyExists) :
    Assurance consultation
      [consultation.gets (.error missing), consultation.creates (.error error)] (.ok ())
  /-- The state is not found and cannot be created. -/
  | refused {missing error : Error} (absent : missing.isNotFound)
    (other : error.isAlreadyExists = false) :
    Assurance consultation
      [consultation.gets (.error missing), consultation.creates (.error error)] (.error error)

/-- What an operation on states and jobs asks, and what it comes to. -/
inductive Operation.Course : Operation → List Exchange → Outcome → Prop
  /-- It was to be made sure that a state exists. -/
  | ensured {rawName space : String} {workload : Workload} {exchanges : List Exchange}
    {result : Except Error Unit}
    (assurance : Assurance ⟨Name.sanitize rawName, space, workload⟩ exchanges result) :
    Course (.ensure rawName space workload) exchanges (.ensured result)
  /-- It is not sure that there is a state to read. -/
  | unsure {rawName space : String} {workload : Workload} {exchanges : List Exchange}
    {error : Error}
    (assurance : Assurance ⟨Name.sanitize rawName, space, workload⟩ exchanges (.error error)) :
    Course (.read rawName space workload) exchanges
      (.details (.error ⟨.existence, Name.sanitize rawName, space, error⟩))
  /-- The state is sure to exist but is not read. -/
  | unread {rawName space : String} {workload : Workload} {exchanges : List Exchange}
    (assurance : Assurance ⟨Name.sanitize rawName, space, workload⟩ exchanges (.ok ()))
    (error : Error) :
    Course (.read rawName space workload)
      (exchanges ++ [Consultation.gets ⟨Name.sanitize rawName, space, workload⟩ (.error error)])
      (.details (.error ⟨.fetch, Name.sanitize rawName, space, error⟩))
  /-- The state is read. -/
  | read {rawName space : String} {workload : Workload} {exchanges : List Exchange}
    (assurance : Assurance ⟨Name.sanitize rawName, space, workload⟩ exchanges (.ok ()))
    (state : CheckState) :
    Course (.read rawName space workload)
      (exchanges ++ [Consultation.gets ⟨Name.sanitize rawName, space, workload⟩ (.ok state)])
      (.details (.ok state.spec))
  /-- A writer has not got its document. -/
  | unchanged {operation : Operation} {revision : Revision}
    (writes : operation.revision? = some revision) (error : Error) :
    Course operation [revision.gets (.error error)]
      (.document (.error error : Answer revision.key.kind))
  /-- A writer has revised the document that it got. -/
  | revised {operation : Operation} {revision : Revision}
    (writes : operation.revision? = some revision) (document : Resource revision.key.kind)
    (now : Time.Instant) (answer : Answer revision.key.kind) :
    Course operation [revision.gets (.ok document), revision.puts now document answer]
      (.document answer)

variable {exchanges : List Exchange}

/-- Making sure of a state takes one of its courses. -/
theorem assurance_of_follows {rawName space : String} {workload : Workload}
    {result : Except Error Unit}
    (follows : (ensure rawName space workload).Follows exchanges result) :
    Assurance ⟨Name.sanitize rawName, space, workload⟩ exchanges result := by
  obtain ⟨answer, rest, rfl, follows⟩ := follows
  cases answer with
  | ok state =>
    obtain ⟨rfl, rfl⟩ := follows
    exact .found state
  | error missing =>
    change Program.Follows (if missing.isNotFound then createState _ _ _ else .done _) _ _
      at follows
    split at follows
    · next absent =>
      obtain ⟨answer, rest, rfl, follows⟩ := follows
      cases answer with
      | ok state =>
        obtain ⟨rfl, rfl⟩ := follows
        exact .created absent state
      | error error =>
        change Program.Follows (if error.isAlreadyExists then .tell _ (.done _) else .done _) _ _
          at follows
        split at follows
        · next present =>
          obtain ⟨rfl, rfl⟩ := follows
          exact .taken absent present
        · next other =>
          obtain ⟨rfl, rfl⟩ := follows
          exact .refused absent (by simpa using other)
    · next other =>
      obtain ⟨rfl, rfl⟩ := follows
      exact .unknown (by simpa using other)

/-- The state is asked for, and created if it was not found. -/
theorem Assurance.asks {consultation : Consultation} {result : Except Error Unit}
    (assurance : Assurance consultation exchanges result) :
    (∃ answer, exchanges = [consultation.gets answer] ∧
      ∀ error, answer = .error error → error.isNotFound = false) ∨
    ∃ missing answer, exchanges =
      [consultation.gets (.error missing), consultation.creates answer] ∧
        Error.isNotFound missing := by
  cases assurance with
  | found state => exact .inl ⟨_, rfl, fun _ failed => nomatch failed⟩
  | unknown other =>
    refine .inl ⟨_, rfl, fun error failed => ?_⟩
    obtain rfl := Except.error.inj failed
    exact other
  | created absent | taken absent | refused absent => exact .inr ⟨_, _, rfl, absent⟩

/-- A writer may tell of a conflict but comes to the answer to its update in any case. -/
private theorem ends_of_follows {α : Type} {conflict : Bool} {event : Log.Event} {answer result : α}
    (follows : Program.Follows (if conflict then .tell event (.done answer) else .done answer)
      exchanges result) : exchanges = [] ∧ result = answer := by
  split at follows <;> exact follows

namespace Operation

variable {operation : Operation} {outcome : Outcome}

/-- A reader takes one of its courses. -/
theorem course_of_read {rawName space : String} {workload : Workload}
    (follows : (read rawName space workload).program.Follows exchanges outcome) :
    (read rawName space workload).Course exchanges outcome := by
  obtain ⟨result, rfl, reads⟩ := Program.Follows.of_map follows
  obtain ⟨first, second, assured, rfl, begins, ends⟩ := Program.Follows.of_bind reads
  have assurance := assurance_of_follows begins
  cases assured with
  | error error =>
    obtain ⟨rfl, rfl⟩ := ends
    rw [List.append_nil]
    exact .unsure assurance
  | ok done =>
    obtain ⟨answer, rest, rfl, ends⟩ := ends
    cases answer with
    | ok state =>
      obtain ⟨rfl, rfl⟩ := ends
      exact .read assurance state
    | error error =>
      obtain ⟨rfl, rfl⟩ := ends
      exact .unread assurance error

/-- A writer of details takes one of its courses. -/
theorem course_of_write {pod rawName space : String} {details : Details}
    (follows : (write pod rawName space details).program.Follows exchanges outcome) :
    (write pod rawName space details).Course exchanges outcome := by
  have revises : (write pod rawName space details).revision? =
    some ⟨⟨.checkState, Name.sanitize rawName, space⟩, revisedState pod details⟩ := rfl
  obtain ⟨result, rfl, writes⟩ := Program.Follows.of_map follows
  obtain ⟨got, rest, rfl, goesOn⟩ := writes
  cases got with
  | error error =>
    obtain ⟨rfl, rfl⟩ := goesOn
    exact .unchanged revises error
  | ok state =>
    obtain ⟨now, answer, rest, rfl, ends⟩ := goesOn
    cases answer with
    | ok written =>
      obtain ⟨rfl, rfl⟩ := ends
      exact .revised revises state now _
    | error error =>
      obtain ⟨rfl, rfl⟩ := ends_of_follows ends
      exact .revised revises state now _

/-- A writer of a phase takes one of its courses. -/
theorem course_of_setPhase {name space : String} {phase : Phase}
    (follows : (setPhase name space phase).program.Follows exchanges outcome) :
    (setPhase name space phase).Course exchanges outcome := by
  have revises : (setPhase name space phase).revision? =
    some ⟨⟨.checkJob, name, space⟩, fun _ => revisedJob phase⟩ := rfl
  obtain ⟨result, rfl, writes⟩ := Program.Follows.of_map follows
  obtain ⟨got, rest, rfl, goesOn⟩ := writes
  cases got with
  | error error =>
    obtain ⟨rfl, rfl⟩ := goesOn
    exact .unchanged revises error
  | ok job =>
    obtain ⟨answer, rest, rfl, ends⟩ := goesOn
    cases answer with
    | ok written =>
      obtain ⟨rfl, rfl⟩ := ends
      exact .revised revises job default _
    | error error =>
      obtain ⟨rfl, rfl⟩ := ends_of_follows ends
      exact .revised revises job default _

/-- An operation on states and jobs takes one of its courses. -/
theorem course_of_follows (onStates : operation.OnStates)
    (follows : operation.program.Follows exchanges outcome) :
    operation.Course exchanges outcome := by
  cases operation with
  | ensure rawName space workload =>
    obtain ⟨result, rfl, ensures⟩ := Program.Follows.of_map follows
    exact .ensured (assurance_of_follows ensures)
  | read rawName space workload => exact course_of_read follows
  | write pod rawName space details => exact course_of_write follows
  | setPhase name space phase => exact course_of_setPhase follows
  | ask call => exact onStates.elim

/-- A writer is not a reader. -/
theorem consultation?_of_revision {revision : Revision}
    (writes : operation.revision? = some revision) : operation.consultation? = none := by
  cases operation with
  | write | setPhase => rfl
  | ensure | read | ask => contradiction

/-- An operation on states and jobs that runs alone takes one of its courses. -/
theorem course {σ : Type} (repository : Repository σ) (clock : Clock) (world : World σ)
    (onStates : operation.OnStates) :
    operation.Course (operation.program.transcript repository clock world)
      (operation.program.run repository clock world).1 :=
  course_of_follows onStates (Program.follows_transcript repository clock _ world)

/-- A reader makes sure of its state and may get it then, and a writer gets a document and may put
what it makes of it. -/
theorem Course.asks (course : operation.Course exchanges outcome) :
    (∃ consultation assured result, operation.consultation? = some consultation ∧
      Assurance consultation assured result ∧
        (exchanges = assured ∨
          result = .ok () ∧ ∃ answer, exchanges = assured ++ [consultation.gets answer])) ∨
    ∃ revision, operation.revision? = some revision ∧
      ((∃ error, exchanges = [revision.gets (.error error)]) ∨
        ∃ document now answer,
          exchanges = [revision.gets (.ok document), revision.puts now document answer]) := by
  cases course with
  | ensured assurance => exact .inl ⟨_, _, _, rfl, assurance, .inl rfl⟩
  | unsure assurance => exact .inl ⟨_, _, _, rfl, assurance, .inl rfl⟩
  | unread assurance error => exact .inl ⟨_, _, _, rfl, assurance, .inr ⟨rfl, _, rfl⟩⟩
  | read assurance state => exact .inl ⟨_, _, _, rfl, assurance, .inr ⟨rfl, _, rfl⟩⟩
  | unchanged writes error => exact .inr ⟨_, writes, .inl ⟨error, rfl⟩⟩
  | revised writes document now answer => exact .inr ⟨_, writes, .inr ⟨document, now, answer, rfl⟩⟩

end Operation

end HealthLedger.State
