import HealthLedger.Proofs.State.Course
import HealthLedger.Proofs.Store.Interruption

/-!
# What failures leave behind

A call that fails leaves the store in memory as it was. So does an operation that fails, also if
any of its calls were prevented and answered with any failure (`failures_keep_store`). There is
one exception: an operation that reads details may have created the state before it failed to get
it.
-/

namespace HealthLedger.State

open Store (Call Answer Error ReadError Exchange Repository Memory Clock World Counted
  Interruptions)

/-- What an operation leaves behind if it fails: the store as it was, or, if the details were not
read from a state that was sure to exist, possibly what the create of the state made of it. -/
structure Operation.LeavesIntact (uids : Nat → String) (memory after : Memory)
    (operation : Operation) (outcome : Outcome) : Prop where
  /-- It is not sure that a state exists. -/
  ensured : ∀ {error : Error}, outcome = .ensured (.error error) → after = memory
  /-- The last call has failed. -/
  document : ∀ {kind : Document.Kind} {error : Error},
    outcome = .document (.error error : Answer kind) → after = memory
  /-- It is not sure that there is a state to read. -/
  existence : ∀ {failed : ReadError}, outcome = .details (.error failed) →
    failed.step = .existence → after = memory
  /-- The state that is sure to exist was not got. -/
  fetch : ∀ {failed : ReadError}, outcome = .details (.error failed) → failed.step = .fetch →
    after = memory ∨ ∃ consultation created, operation.consultation? = some consultation ∧
      Memory.perform uids (.create consultation.state consultation.space) memory =
        (.ok created, after)

namespace Assurance

variable {consultation : Consultation} {exchanges : List Exchange}

/-- If it is not sure that the state exists, nothing was written. -/
theorem unwritten_of_error {error : Error}
    (assurance : Assurance consultation exchanges (.error error)) :
    ∀ exchange ∈ exchanges, exchange.isWritten = false := by
  cases assurance with
  | unknown other => exact List.forall_mem_singleton.2 rfl
  | refused absent other =>
    exact List.forall_mem_cons.2 ⟨rfl, List.forall_mem_singleton.2 rfl⟩

/-- If it is sure that the state exists, nothing was written or the state was created. -/
theorem unwritten_or_created (assurance : Assurance consultation exchanges (.ok ())) :
    (∀ exchange ∈ exchanges, exchange.isWritten = false) ∨
      ∃ missing state, exchanges =
        [consultation.gets (.error missing), consultation.creates (.ok state)] := by
  cases assurance with
  | found state => exact .inl (List.forall_mem_singleton.2 rfl)
  | created absent state => exact .inr ⟨_, state, rfl⟩
  | taken absent present =>
    exact .inl (List.forall_mem_cons.2 ⟨rfl, List.forall_mem_singleton.2 rfl⟩)

end Assurance

variable {uids : Nat → String} {plan : Interruptions} {counted after : Counted Memory}
  {exchanges : List Exchange}

/-- Exchanges in which nothing is written leave the store as it was. -/
theorem leads_unwritten (prevents : plan.Prevent)
    (leads : ((Memory.repository uids).interrupted plan).Leads counted exchanges after)
    (unwritten : ∀ exchange ∈ exchanges, exchange.isWritten = false) :
    after.state = counted.state :=
  leads.keeps Counted.state fun exchange asked _ answered =>
    Memory.interrupted_keeps prevents answered (unwritten exchange asked)

/-- Making sure that a state exists leaves the store as it was, or creates the state. -/
theorem leads_assured (prevents : plan.Prevent) {consultation : Consultation}
    (leads : ((Memory.repository uids).interrupted plan).Leads counted exchanges after)
    (assurance : Assurance consultation exchanges (.ok ())) :
    after.state = counted.state ∨ ∃ created,
      Memory.perform uids (.create consultation.state consultation.space) counted.state =
        (.ok created, after.state) := by
  obtain unwritten | ⟨missing, state, rfl⟩ := assurance.unwritten_or_created
  · exact .inl (leads_unwritten prevents leads unwritten)
  · rw [← List.singleton_append] at leads
    obtain ⟨middle, gets, created, rfl⟩ := Repository.Leads.append_iff.1 leads
    have same := leads_unwritten prevents gets (List.forall_mem_singleton.2 rfl)
    have ok := Repository.interrupted_ok created
    rw [same] at ok
    exact .inr ⟨state, ok⟩

/-- An operation on states and jobs that fails leaves the store intact. -/
theorem Operation.Course.leavesIntact (prevents : plan.Prevent) {operation : Operation}
    {outcome : Outcome} (course : operation.Course exchanges outcome)
    (leads : ((Memory.repository uids).interrupted plan).Leads counted exchanges after) :
    operation.LeavesIntact uids counted.state after.state outcome := by
  cases course with
  | ensured assurance =>
    refine ⟨fun failed => ?_, nofun, nofun, nofun⟩
    obtain rfl := Outcome.ensured.inj failed
    exact leads_unwritten prevents leads assurance.unwritten_of_error
  | unsure assurance =>
    refine ⟨nofun, nofun, fun _ _ => ?_, fun failed step => ?_⟩
    · exact leads_unwritten prevents leads assurance.unwritten_of_error
    · obtain rfl := Except.error.inj (Outcome.details.inj failed)
      contradiction
  | unread assurance error =>
    refine ⟨nofun, nofun, fun failed step => ?_, fun _ _ => ?_⟩
    · obtain rfl := Except.error.inj (Outcome.details.inj failed)
      contradiction
    · obtain ⟨middle, assures, fetches⟩ := Repository.Leads.append_iff.1 leads
      have same := leads_unwritten prevents fetches (List.forall_mem_singleton.2 rfl)
      rw [same]
      refine (leads_assured prevents assures assurance).imp_right ?_
      rintro ⟨created, creates⟩
      exact ⟨_, created, rfl, creates⟩
  | read assurance state => exact ⟨nofun, nofun, nofun, nofun⟩
  | unchanged writes error =>
    refine ⟨nofun, fun _ => ?_, nofun, nofun⟩
    exact leads_unwritten prevents leads (List.forall_mem_singleton.2 rfl)
  | revised writes document now answer =>
    refine ⟨nofun, fun failed => ?_, nofun, nofun⟩
    cases failed
    exact leads_unwritten prevents leads
      (List.forall_mem_cons.2 ⟨rfl, List.forall_mem_singleton.2 rfl⟩)

/-- Whatever is stored, a call that fails leaves the store as it was, and so does an operation on
states and jobs that fails, if interrupted calls are not carried out. Only the read of details that
fails to get the state may have created it. -/
theorem failures_keep_store (uids : Nat → String) (memory : Memory) (plan : Interruptions)
    (prevents : plan.Prevent) (clock : Clock) (world : World (Counted Memory))
    (begins : world.state.state = memory) {operation : Operation} (onStates : operation.OnStates) :
    (∀ {kind : Document.Kind} (call : Call kind) (error : Error),
      (Memory.perform uids call memory).1 = .error error →
        (Memory.perform uids call memory).2 = memory) ∧
    let ended := operation.program.run ((Memory.repository uids).interrupted plan) clock world
    operation.LeavesIntact uids memory ended.2.state.state ended.1 := by
  refine ⟨fun call error failed => Memory.perform_error failed, ?_⟩
  have course := operation.course ((Memory.repository uids).interrupted plan) clock world onStates
  have leads := Store.Program.leads_transcript
    ((Memory.repository uids).interrupted plan) clock operation.program world
  rw [← begins]
  exact course.leavesIntact prevents leads

/-- The third call is lost on its way. -/
def thirdLost : Interruptions := fun number =>
  if number = 3 then some ⟨fun key => ⟨key, .transport "connection reset"⟩, false⟩ else none

/-- A state that is created and then not got remains in the store. -/
theorem unread_state_remains :
    let reading : Operation := .read "DB Ping" "health" .check
    let ended := reading.program.run ((Memory.repository toString).interrupted thirdLost) default
      ⟨⟨.empty, 0⟩, 0, []⟩
    let key : Document.Key := ⟨.checkState, Name.sanitize "DB Ping", "health"⟩
    ended.1 = .details (.error ⟨.fetch, key.name, key.space,
        ⟨key, .transport "connection reset"⟩⟩) ∧
      reading.LeavesIntact toString .empty ended.2.state.state ended.1 ∧
      ended.2.state.state.size = 1 := by
  intro reading ended key
  have prevents : thirdLost.Prevent := by
    intro number interruption struck
    unfold thirdLost at struck
    split at struck
    · obtain rfl := Option.some.inj struck
      rfl
    · contradiction
  have onStates : reading.OnStates := trivial
  have kept := failures_keep_store toString .empty thirdLost prevents default ⟨⟨.empty, 0⟩, 0, []⟩
    rfl onStates
  exact ⟨rfl, kept.2, rfl⟩

end HealthLedger.State
