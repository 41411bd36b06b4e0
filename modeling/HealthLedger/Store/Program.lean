import HealthLedger.Document.Resource
import HealthLedger.Log.Event

/-!
# Programs over a store

A store answers three calls: get, create and update. A program is a computation that makes
such calls one at a time, reads the clock and tells events; it does not know which store
answers. `Repository` is a store as a program sees it, and `Program.run` lets a program run
alone against one. `settle` and `advance` take a program from one call to the next, so that
several programs can take turns.
-/

namespace HealthLedger.Store

open Document (Kind Resource Key)

/-- A call of a store for documents of one kind. -/
inductive Call (kind : Kind) where
  /-- Get the document of a name. -/
  | get (name space : String)
  /-- Store a document under a key that has none. -/
  | create (document : Resource kind) (space : String)
  /-- Replace a document that has the version the new one carries. -/
  | update (document : Resource kind) (space : String)

/-- The key a call addresses. -/
def Call.key {kind : Kind} : Call kind → Key
  | .get name space => ⟨kind, name, space⟩
  | .create document space => document.keyIn space
  | .update document space => document.keyIn space

/-- The answer to a call. -/
abbrev Answer (kind : Kind) := Except Error (Resource kind)

/-- A store with states of type `σ`: the answer to a call, and the state behind it. -/
structure Repository (σ : Type) where
  /-- Answer a call. -/
  perform : {kind : Kind} → Call kind → σ → Answer kind × σ

/-- A computation that calls a store. -/
inductive Program (α : Type) : Type where
  /-- The computation has a result. -/
  | done (result : α)
  /-- Make a call and go on with its answer. -/
  | call {kind : Kind} (request : Call kind) (resume : Answer kind → Program α)
  /-- Tell an event. -/
  | tell (event : Log.Event) (rest : Program α)
  /-- Read the clock. -/
  | now (resume : Time.Instant → Program α)

namespace Program

variable {α β : Type}

/-- Go on with the result of a computation. -/
def bind : Program α → (α → Program β) → Program β
  | .done result, next => next result
  | .call request resume, next => .call request fun answer => (resume answer).bind next
  | .tell event rest, next => .tell event (rest.bind next)
  | .now resume, next => .now fun time => (resume time).bind next

instance : Monad Program where
  pure := .done
  bind := .bind

/-- Going on with the result as it is changes nothing. -/
theorem bind_done (program : Program α) : program.bind .done = program := by
  induction program with
  | done result => rfl
  | call request resume ih => simp [bind, ih]
  | tell event rest ih => simp [bind, ih]
  | now resume ih => simp [bind, ih]

/-- Going on twice is going on once with both. -/
theorem bind_assoc {γ : Type} (program : Program α) (next : α → Program β)
    (last : β → Program γ) :
    (program.bind next).bind last = program.bind fun result => (next result).bind last := by
  induction program with
  | done result => rfl
  | call request resume ih => simp [bind, ih]
  | tell event rest ih => simp [bind, ih]
  | now resume ih => simp [bind, ih]

instance : LawfulMonad Program := LawfulMonad.mk' Program
  (fun program => bind_done program)
  (fun _ _ => rfl)
  (fun program next last => bind_assoc program next last)

/-- The computation of one call. -/
def perform {kind : Kind} (request : Call kind) : Program (Answer kind) := .call request .done

/-- The computation that tells an event. -/
def say (event : Log.Event) : Program Unit := .tell event (.done ())

/-- The computation that reads the clock. -/
def time : Program Time.Instant := .now .done

end Program

/-- What programs run in: the state of a store, how often the clock was read, and the events told
so far. -/
structure World (σ : Type) where
  /-- The state of the store. -/
  state : σ
  /-- How often the clock was read. -/
  ticks : Nat := 0
  /-- The events told so far. -/
  events : List Log.Event := []

namespace World

variable {σ : Type}

/-- The world after an event. -/
def told (world : World σ) (event : Log.Event) : World σ :=
  { world with events := world.events ++ [event] }

/-- The world after the clock was read. -/
def ticked (world : World σ) : World σ := { world with ticks := world.ticks + 1 }

end World

/-- What the clock shows when it is read for the first time, the second time and so on. -/
abbrev Clock := Nat → Time.Instant

namespace Program

variable {α σ : Type}

/-- Run a program against a store. -/
def run (repository : Repository σ) (clock : Clock) : Program α → World σ → α × World σ
  | .done result, world => (result, world)
  | .call request resume, world =>
    let (answer, state) := repository.perform request world.state
    (resume answer).run repository clock { world with state }
  | .tell event rest, world => rest.run repository clock (world.told event)
  | .now resume, world => (resume (clock world.ticks)).run repository clock world.ticked

/-- A program that goes on with a result runs like its two parts one after the other. -/
theorem run_bind {β : Type} (repository : Repository σ) (clock : Clock) (program : Program α)
    (next : α → Program β) (world : World σ) :
    (program.bind next).run repository clock world =
      let (result, world) := program.run repository clock world
      (next result).run repository clock world := by
  induction program generalizing world with
  | done result => rfl
  | call request resume ih => exact ih _ _
  | tell event rest ih => exact ih _
  | now resume ih => exact ih _ _

/-- Run a program up to its next call or its end. -/
def settle (clock : Clock) : Program α → World σ → Program α × World σ
  | .done result, world => (.done result, world)
  | .call request resume, world => (.call request resume, world)
  | .tell event rest, world => rest.settle clock (world.told event)
  | .now resume, world => (resume (clock world.ticks)).settle clock world.ticked

/-- Make the call a program waits at, if it waits at one, and run it up to its next call or its
end. -/
def advance (repository : Repository σ) (clock : Clock) (program : Program α)
    (world : World σ) : Program α × World σ :=
  match program with
  | .call request resume =>
    let (answer, state) := repository.perform request world.state
    (resume answer).settle clock { world with state }
  | program => program.settle clock world

/-- The result of a program that has ended. -/
def result? : Program α → Option α
  | .done result => some result
  | _ => none

end Program

end HealthLedger.Store
