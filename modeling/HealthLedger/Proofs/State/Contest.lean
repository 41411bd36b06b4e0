import HealthLedger.Proofs.State.Operation

/-!
# Operations that use one store in memory at the same time

A contest is the pool of the programs of some operations, and a store is reachable if contests
lead to it from the empty one. Turns keep the operations of a contest under way: the store stays
sound and every operation makes its own calls (`Underway.run`), so reachable stores are sound.
-/

namespace HealthLedger.State

open Document (Kind Key Vocabulary)
open Store (Program Call Answer Error Protocol Pool Memory Stored Clock Exchange)

/-- The programs of some operations, each up to its first call, with a store in memory. -/
def contest (clock : Clock) (memory : Memory) (operations : List Operation) :
    Pool Outcome Memory :=
  .ofPrograms clock ⟨memory, 0, []⟩ (operations.map Operation.program)

/-- Contests with clocks and operations of a vocabulary lead from the empty store to this one. -/
inductive Reachable (uids : Nat → String) (vocabulary : Vocabulary) : Memory → Prop
  /-- The empty store. -/
  | empty : Reachable uids vocabulary .empty
  /-- The store behind a contest. -/
  | contest {memory : Memory} (reached : Reachable uids vocabulary memory) (clock : Clock)
    (operations : List Operation) (schedule : List Nat)
    (times : ∀ count, vocabulary.instants (clock count))
    (admitted : ∀ operation ∈ operations, operation.Admitted vocabulary) :
    Reachable uids vocabulary
      ((contest clock memory operations).run (Memory.repository uids) clock schedule).world.state

variable {uids : Nat → String} {clock : Clock} {vocabulary : Vocabulary} {memory : Memory}
  {operations : List Operation}

/-- The operation of a number waits at its first call. -/
theorem contest_programs (clock : Clock) (memory : Memory) {number : Nat} {operation : Operation}
    (entered : operations[number]? = some operation) :
    ∃ begin : Store.World Memory, begin.state = memory ∧
      (contest clock memory operations).programs[number]? =
        some (operation.program.settle clock begin).1 :=
  Pool.ofPrograms_programs clock ⟨memory, 0, []⟩ (by rw [List.getElem?_map, entered]; rfl)

/-- A contest begins with the store it is given. -/
@[simp] theorem contest_state : (contest clock memory operations).world.state = memory :=
  Pool.ofPrograms_state _ _

/-- A sound store serves the protocols of operations. -/
theorem serves_protocols (uids : Nat → String) (stable : vocabulary.Stable)
    (operations : List Operation) (number : Nat) :
    (Memory.repository uids).Serves (Memory.Sound vocabulary)
      (protocols vocabulary operations number) :=
  fun _ call memory sound made => Memory.serves_sound uids stable call memory sound made.1

/-- Operations of a vocabulary are under way: the store is sound and the programs keep to their
protocols. -/
structure Underway (clock : Clock) (vocabulary : Vocabulary) (operations : List Operation)
    (pool : Pool Outcome Memory) : Prop where
  /-- Reading back does not lead out of the vocabulary. -/
  stable : vocabulary.Stable
  /-- The clock shows instants of the vocabulary. -/
  times : ∀ count, vocabulary.instants (clock count)
  /-- The store is sound, and the programs keep to their protocols. -/
  obeys : pool.Obeys (protocols vocabulary operations) (Memory.Sound vocabulary)

namespace Underway

variable {pool : Pool Outcome Memory}

/-- The store is sound. -/
theorem sound (underway : Underway clock vocabulary operations pool) :
    pool.world.state.Sound vocabulary :=
  underway.obeys.store

/-- A turn keeps operations under way. -/
theorem turn (underway : Underway clock vocabulary operations pool) (uids : Nat → String)
    (number : Nat) :
    Underway clock vocabulary operations (pool.turn (Memory.repository uids) clock number) :=
  { underway with
    obeys := underway.obeys.turn (serves_protocols uids underway.stable operations)
      (fun _ => underway.times) number }

/-- A run keeps operations under way. -/
theorem run (underway : Underway clock vocabulary operations pool) (uids : Nat → String)
    (schedule : List Nat) :
    Underway clock vocabulary operations (pool.run (Memory.repository uids) clock schedule) :=
  { underway with
    obeys := underway.obeys.run (serves_protocols uids underway.stable operations)
      (fun _ => underway.times) schedule }

/-- What a run makes of an entry. -/
theorem fate (underway : Underway clock vocabulary operations pool) (uids : Nat → String)
    {key : Key} {stored : Stored} (found : pool.world.state.find? key = some stored)
    (schedule : List Nat) :
    Store.Fate key stored (pool.exchanges (Memory.repository uids) clock schedule)
      (pool.run (Memory.repository uids) clock schedule).world.state :=
  Pool.run_fate underway.obeys (serves_protocols uids underway.stable operations)
    (fun _ => underway.times) found schedule

/-- What is stored once stays stored. -/
theorem holds (underway : Underway clock vocabulary operations pool) (uids : Nat → String)
    {key : Key} (holds : pool.world.state.Holds key) (schedule : List Nat) :
    (pool.run (Memory.repository uids) clock schedule).world.state.Holds key := by
  obtain ⟨stored, found⟩ := holds
  exact (underway.fate uids found schedule).holds

/-- An exchange belongs to an operation, whose call it is. -/
theorem makes (underway : Underway clock vocabulary operations pool) {uids : Nat → String}
    {number : Nat} {exchange : Exchange}
    (made : pool.exchange? (Memory.repository uids) number = some exchange) :
    ∃ operation, operations[number]? = some operation ∧ operation.Makes exchange.request :=
  (underway.obeys.exchange made).2

end Underway

/-- A contest of admitted operations begins with all of them under way. -/
theorem contest_underway (stable : vocabulary.Stable) (sound : memory.Sound vocabulary)
    (times : ∀ count, vocabulary.instants (clock count))
    (admitted : ∀ operation ∈ operations, operation.Admitted vocabulary) :
    Underway clock vocabulary operations (contest clock memory operations) := by
  refine ⟨stable, times, Pool.obeys_ofPrograms sound (fun _ => times) ?_⟩
  intro number program found
  rw [List.getElem?_map] at found
  obtain ⟨operation, entered, rfl⟩ := Option.map_eq_some_iff.1 found
  exact Operation.keeps entered (admitted operation (List.mem_of_getElem? entered))

/-- Reachable stores are sound. -/
theorem Reachable.sound (stable : vocabulary.Stable) (reached : Reachable uids vocabulary memory) :
    memory.Sound vocabulary := by
  induction reached with
  | empty => exact Memory.empty_sound vocabulary
  | contest _ clock operations schedule times admitted sound =>
    exact ((contest_underway stable sound times admitted).run uids schedule).sound

end HealthLedger.State
