import HealthLedger.Store.Program

/-!
# Programs that take turns

A pool holds programs that use one store at the same time. Each waits at its next call. A
schedule names one program after the other; the named program makes the call it waits at and
runs on to its next one, and a program that has ended lets its turn pass. Every interleaving of
the calls is the run of a schedule.
-/

namespace HealthLedger.Store

/-- Programs in a world, and the numbers of those that have ended in the order in which they
ended. -/
structure Pool (α σ : Type) where
  /-- The programs, by their numbers. -/
  programs : List (Program α)
  /-- The numbers of the programs that have ended. -/
  ended : List Nat
  /-- What the programs run in. -/
  world : World σ

namespace Pool

variable {α σ : Type}

/-- Put a program back in its place, and note if it has ended now. -/
def replace (pool : Pool α σ) (number : Nat) (program : Program α) (world : World σ) :
    Pool α σ where
  programs := pool.programs.set number program
  ended :=
    if program.result?.isSome && !pool.ended.contains number then pool.ended ++ [number]
    else pool.ended
  world := world

/-- Let a new program run up to its first call. -/
def start (clock : Clock) (pool : Pool α σ) (program : Program α) : Pool α σ :=
  let (program, world) := program.settle clock pool.world
  { pool with programs := pool.programs ++ [program] }.replace pool.programs.length program world

/-- Let programs run up to their first calls, one after the other. -/
def ofPrograms (clock : Clock) (world : World σ) (programs : List (Program α)) : Pool α σ :=
  programs.foldl (start clock) ⟨[], [], world⟩

/-- Give one program a turn. -/
def turn (repository : Repository σ) (clock : Clock) (pool : Pool α σ) (number : Nat) :
    Pool α σ :=
  match pool.programs[number]? with
  | none => pool
  | some program =>
    let (program, world) := program.advance repository clock pool.world
    pool.replace number program world

/-- Give programs turns in the order of a schedule. -/
def run (repository : Repository σ) (clock : Clock) (pool : Pool α σ) (schedule : List Nat) :
    Pool α σ :=
  schedule.foldl (turn repository clock) pool

/-- A schedule that is cut in two is run in two parts. -/
theorem run_append (repository : Repository σ) (clock : Clock) (pool : Pool α σ)
    (first second : List Nat) :
    pool.run repository clock (first ++ second) =
      (pool.run repository clock first).run repository clock second := by
  simp [run, List.foldl_append]

/-- The schedule of some rounds in which every program has one turn. -/
def rounds (count programs : Nat) : List Nat :=
  (List.replicate count (List.range programs)).flatten

end Pool

end HealthLedger.Store
