import HealthLedger.Proofs.Store.Journal
import HealthLedger.Proofs.Store.Transcript
import HealthLedger.Store.Faults

/-!
# Calls that are interrupted

A call may be interrupted on its way to the store, or its answer on the way back. The caller is
told a failure in both cases, which can be any failure, and does not know whether the call was
carried out. Faults are such interruptions (`Repository.withFaults_eq_interrupted`). Without an
interruption a call is answered by the store itself.
-/

namespace HealthLedger.Store

open Document (Kind Key Resource)

/-- An interruption of a call. -/
structure Interruption where
  /-- What the caller is told, by the key of the call. -/
  failure : Key → Error
  /-- Whether the call is carried out nevertheless. -/
  carriedOut : Bool

/-- The interruptions of a run, by the number of the call. -/
abbrev Interruptions := Nat → Option Interruption

/-- No interrupted call is carried out. -/
def Interruptions.Prevent (plan : Interruptions) : Prop :=
  ∀ number interruption, plan number = some interruption → interruption.carriedOut = false

/-- A repository some of whose calls are interrupted. -/
def Repository.interrupted {σ : Type} (repository : Repository σ) (plan : Interruptions) :
    Repository (Counted σ) where
  perform call counted :=
    let number := counted.calls + 1
    match plan number with
    | none =>
      let (answer, state) := repository.perform call counted.state
      (answer, ⟨state, number⟩)
    | some interruption =>
      let state :=
        if interruption.carriedOut then (repository.perform call counted.state).2
        else counted.state
      (.error (interruption.failure call.key), ⟨state, number⟩)

/-- A fault tells a failure of the key that was called. -/
def Fault.interruption (fault : Fault) : Interruption :=
  ⟨fun key => ⟨key, fault.reason⟩, fault.carriedOut⟩

namespace Repository

variable {σ : Type} {repository : Repository σ} {plan : Interruptions} {kind : Kind}
  {call : Call kind} {counted : Counted σ}

/-- A repository with faults is one with interruptions. -/
theorem withFaults_eq_interrupted (repository : Repository σ) (plan : FaultPlan) :
    repository.withFaults plan =
      repository.interrupted fun number => (plan number).map Fault.interruption := by
  unfold withFaults interrupted
  congr 1
  funext kind call counted
  simp only
  cases plan (counted.calls + 1) <;> rfl

/-- Every call is counted. -/
theorem interrupted_calls (repository : Repository σ) (plan : Interruptions) (call : Call kind)
    (counted : Counted σ) :
    ((repository.interrupted plan).perform call counted).2.calls = counted.calls + 1 := by
  simp only [interrupted]
  split <;> rfl

/-- A call that is not interrupted is answered by the store. -/
theorem interrupted_of_none (free : plan (counted.calls + 1) = none) :
    (repository.interrupted plan).perform call counted =
      ((repository.perform call counted.state).1,
        ⟨(repository.perform call counted.state).2, counted.calls + 1⟩) := by
  simp only [interrupted, free]

/-- A call that is interrupted is answered with the failure. -/
theorem interrupted_of_some {interruption : Interruption}
    (struck : plan (counted.calls + 1) = some interruption) :
    (repository.interrupted plan).perform call counted =
      (.error (interruption.failure call.key),
        ⟨if interruption.carriedOut then (repository.perform call counted.state).2
          else counted.state, counted.calls + 1⟩) := by
  simp only [interrupted, struck]

/-- A call that succeeds was not interrupted. -/
theorem interrupted_ok {document : Resource kind}
    (ok : ((repository.interrupted plan).perform call counted).1 = .ok document) :
    repository.perform call counted.state =
      (.ok document, ((repository.interrupted plan).perform call counted).2.state) := by
  cases struck : plan (counted.calls + 1) with
  | none =>
    rw [interrupted_of_none struck] at ok ⊢
    exact Prod.ext ok rfl
  | some interruption =>
    rw [interrupted_of_some struck] at ok
    contradiction

end Repository

namespace Memory

variable {uids : Nat → String} {memory : Memory} {plan : Interruptions} {kind : Kind}
  {call : Call kind}

/-- A call that writes nothing changes nothing. -/
theorem perform_unwritten
    (unwritten : (call.isWrite && (perform uids call memory).1.isOk) = false) :
    (perform uids call memory).2 = memory := by
  have effect := (perform_move uids memory call).effect
  generalize (perform uids call memory).1 = answer at effect unwritten
  generalize (perform uids call memory).2 = after at effect ⊢
  cases effect with
  | silent => rfl
  | created | updated => contradiction

/-- A call that fails changes nothing. -/
theorem perform_error {error : Error} (failed : (perform uids call memory).1 = .error error) :
    (perform uids call memory).2 = memory := by
  apply perform_unwritten
  rw [failed]
  exact Bool.and_false _

/-- An exchange in which nothing is written leaves the store as it was if interrupted calls are not
carried out. -/
theorem interrupted_keeps (prevents : plan.Prevent) {counted : Counted Memory}
    {exchange : Exchange}
    (answered : (((repository uids).interrupted plan).perform exchange.request counted).1 =
      exchange.answer)
    (unwritten : exchange.isWritten = false) :
    (((repository uids).interrupted plan).perform exchange.request counted).2.state =
      counted.state := by
  cases struck : plan (counted.calls + 1) with
  | none =>
    rw [Repository.interrupted_of_none struck] at answered ⊢
    apply perform_unwritten
    rw [Exchange.isWritten, ← answered] at unwritten
    exact unwritten
  | some interruption =>
    rw [Repository.interrupted_of_some struck, prevents _ _ struck]
    rfl

end Memory

end HealthLedger.Store
