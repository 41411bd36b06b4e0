import HealthLedger.Store.Program

/-!
# Stores that fail

A fault makes one call of a store fail for a given reason. The call may have been carried out
nevertheless, so that only its answer is lost. A plan names the calls that fail by their
number, counted from one over all programs.
-/

namespace HealthLedger.Store

open Document (Kind)

/-- A failure of one call. -/
structure Fault where
  /-- Why the call fails. -/
  reason : Reason
  /-- Whether the call is carried out nevertheless. -/
  carriedOut : Bool

/-- The faults of a run, by the number of the call. -/
abbrev FaultPlan := Nat → Option Fault

/-- A store whose calls are counted. -/
structure Counted (σ : Type) where
  /-- The state of the store. -/
  state : σ
  /-- The number of calls so far. -/
  calls : Nat := 0

/-- A repository with faults. -/
def Repository.withFaults {σ : Type} (repository : Repository σ) (plan : FaultPlan) :
    Repository (Counted σ) where
  perform call counted :=
    let number := counted.calls + 1
    match plan number with
    | none =>
      let (answer, state) := repository.perform call counted.state
      (answer, ⟨state, number⟩)
    | some fault =>
      let state :=
        if fault.carriedOut then (repository.perform call counted.state).2 else counted.state
      (.error ⟨call.key, fault.reason⟩, ⟨state, number⟩)

end HealthLedger.Store
