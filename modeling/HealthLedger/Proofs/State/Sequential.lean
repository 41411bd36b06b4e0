import HealthLedger.Proofs.State.Operation

/-!
# Operations that run alone

What a program that runs alone comes to does not depend on the events told before
(`Program.Runs`). What an operation comes to and what it leaves behind follows from the answers
of the store to its calls, whatever the store is. A writer of details reads the clock once if it
finds a state; nothing else reads it.
-/

namespace HealthLedger.Store

open Document (Kind)

/-- A program goes from a state of the store and a number of times the clock was read to a result,
another state and another number. -/
inductive Program.Runs {α σ : Type} (repository : Repository σ) (clock : Clock) :
    Program α → σ → Nat → α → σ → Nat → Prop
  /-- There is a result. -/
  | done {result : α} {state : σ} {ticks : Nat} :
    Runs repository clock (.done result) state ticks result state ticks
  /-- The store answers a call. -/
  | call {kind : Kind} {request : Call kind} {resume : Answer kind → Program α}
    {state middle after : σ} {ticks last : Nat} {answer : Answer kind} {result : α}
    (answered : repository.perform request state = (answer, middle))
    (rest : Runs repository clock (resume answer) middle ticks result after last) :
    Runs repository clock (.call request resume) state ticks result after last
  /-- An event is told. -/
  | tell {event : Log.Event} {program : Program α} {state after : σ} {ticks last : Nat}
    {result : α} (rest : Runs repository clock program state ticks result after last) :
    Runs repository clock (.tell event program) state ticks result after last
  /-- The clock is read. -/
  | now {resume : Time.Instant → Program α} {state after : σ} {ticks last : Nat} {result : α}
    (rest : Runs repository clock (resume (clock ticks)) state (ticks + 1) result after last) :
    Runs repository clock (.now resume) state ticks result after last

namespace Program

variable {α β σ : Type} {repository : Repository σ} {clock : Clock} {state middle after : σ}
  {ticks next last : Nat}

/-- A program runs as it does. -/
theorem Runs.run_eq {program : Program α} {result : α}
    (runs : program.Runs repository clock state ticks result after last)
    (events : List Log.Event) :
    ∃ told, program.run repository clock ⟨state, ticks, events⟩ =
      (result, ⟨after, last, told⟩) := by
  induction runs generalizing events with
  | done => exact ⟨events, rfl⟩
  | call answered _ ih =>
    obtain ⟨told, same⟩ := ih events
    refine ⟨told, ?_⟩
    rw [run, answered]
    exact same
  | tell _ ih => exact ih _
  | now _ ih => exact ih _

/-- Two parts run one after the other. -/
theorem Runs.bind {program : Program α} {continue_ : α → Program β} {first : α} {second : β}
    (runs : program.Runs repository clock state ticks first middle next)
    (goesOn : (continue_ first).Runs repository clock middle next second after last) :
    (program.bind continue_).Runs repository clock state ticks second after last := by
  induction runs with
  | done => exact goesOn
  | call answered _ ih => exact .call answered (ih goesOn)
  | tell _ ih => exact .tell (ih goesOn)
  | now _ ih => exact .now (ih goesOn)

end Program

end HealthLedger.Store

namespace HealthLedger.State

open Document (Workload Details Phase CheckState CheckJob)
open Store (Program Call Answer Error Repository Clock)

variable {σ : Type} {repository : Repository σ} {clock : Clock} {start middle after : σ}
  {ticks : Nat}

/-- Making sure that a state exists takes one call if it is found. -/
theorem ensure_runs_found {rawName space : String} {workload : Workload} {state : CheckState}
    (got : repository.perform (.get (Name.sanitize rawName) space) start = (.ok state, middle)) :
    (ensure rawName space workload).Runs repository clock start ticks (.ok ()) middle ticks :=
  .tell (.call got (.tell .done))

/-- A state that is not found is created. -/
theorem ensure_runs_created {rawName space : String} {workload : Workload} {error : Error}
    {state : CheckState}
    (got : repository.perform (.get (Name.sanitize rawName) space : Call .checkState) start =
      (.error error, middle))
    (missing : error.isNotFound)
    (created : repository.perform
      (.create (emptyState (Name.sanitize rawName) space workload) space) middle =
        (.ok state, after)) :
    (ensure rawName space workload).Runs repository clock start ticks (.ok ()) after ticks := by
  refine .tell (.call got ?_)
  show Program.Runs _ _ (if error.isNotFound then createState _ _ _ else .done _) _ _ _ _ _
  rw [if_pos missing]
  exact .tell (.call created .done)

/-- Details are those of the state that is found once it is sure that there is one. -/
theorem read_runs {rawName space : String} {workload : Workload} {state : CheckState}
    (ensured : (ensure rawName space workload).Runs repository clock start ticks (.ok ()) middle
      ticks)
    (got : repository.perform (.get (Name.sanitize rawName) space) middle = (.ok state, after)) :
    (read rawName space workload).Runs repository clock start ticks (.ok state.spec) after
      ticks :=
  ensured.bind (.tell (.call got (.tell .done)))

/-- Without a state no details are written. -/
theorem write_runs_missing {pod rawName space : String} {details : Details} {error : Error}
    (got : repository.perform (.get (Name.sanitize rawName) space : Call .checkState) start =
      (.error error, middle)) :
    (write pod rawName space details).Runs repository clock start ticks (.error error) middle
      ticks :=
  .call got .done

/-- The details of a state that is found are written. -/
theorem write_runs_found {pod rawName space : String} {details : Details}
    {state written : CheckState}
    (got : repository.perform (.get (Name.sanitize rawName) space) start = (.ok state, middle))
    (updated : repository.perform
      (.update (revisedState pod details (clock ticks) state) space) middle =
        (.ok written, after)) :
    (write pod rawName space details).Runs repository clock start ticks (.ok written) after
      (ticks + 1) :=
  .call got (.now (.tell (.call updated .done)))

/-- Without a job no phase is changed. -/
theorem setPhase_runs_missing {name space : String} {phase : Phase} {error : Error}
    (got : repository.perform (.get name space : Call .checkJob) start =
      (.error error, middle)) :
    (setPhase name space phase).Runs repository clock start ticks (.error error) middle ticks :=
  .call got (.tell .done)

/-- The phase of a job that is found is changed. -/
theorem setPhase_runs_found {name space : String} {phase : Phase} {job written : CheckJob}
    (got : repository.perform (.get name space) start = (.ok job, middle))
    (updated : repository.perform (.update (revisedJob phase job) space) middle =
      (.ok written, after)) :
    (setPhase name space phase).Runs repository clock start ticks (.ok written) after ticks :=
  .call got (.tell (.call updated .done))

end HealthLedger.State
