import HealthLedger.Proofs.State.Contest

/-!
# Writers replace what they have read

A writer gets a document, makes something of it and updates it. Whatever the other operations of
a contest do in the meantime, the update succeeds exactly if no other update of the key has
succeeded since the get. It then replaces the very entry that was read; otherwise it is a
conflict and changes nothing.
-/

namespace HealthLedger.State

open Document (Kind Key Resource CheckJob Vocabulary)
open Store (Program Call Answer Error Protocol Pool Memory Stored Clock Exchange Spared Fate)

variable {uids : Nat → String} {clock : Clock} {memory : Memory} {operations : List Operation}

/-- A writer that finds a document leaves the store as it is, waits at its update, and comes to the
answer to it. -/
theorem writer_waits (clock : Clock) {pool : Pool Outcome Memory} {number : Nat}
    {operation : Operation} {revision : Revision}
    (writes : operation.revision? = some revision) {begin : Store.World Memory}
    (waiting : pool.programs[number]? = some (operation.program.settle clock begin).1)
    {document : Resource revision.key.kind}
    (found : pool.exchange? (Memory.repository uids) number =
      some ⟨number, _, .get revision.key.name revision.key.space, .ok document⟩) :
    (pool.turn (Memory.repository uids) clock number).world.state = pool.world.state ∧
      (∃ stored, pool.world.state.find? revision.key = some stored ∧
        (Resource.decoder revision.key.kind).decodeValue stored.body = .ok document) ∧
      ∃ tick last, (pool.turn (Memory.repository uids) clock number).programs[number]? =
          some (.call (.update (revision.revise (clock tick) document) revision.key.space) last) ∧
        ∀ (answer : Answer revision.key.kind) (world : Store.World Memory),
          ((last answer).settle clock world).1 = .done (.document answer) := by
  obtain ⟨resume, asks, resumes⟩ := Operation.program_of_revision writes clock begin
  rw [asks] at waiting
  have answered : ((Memory.repository uids).perform
      (.get revision.key.name revision.key.space) pool.world.state).1 = .ok document := by
    rw [Pool.exchange?_of_call waiting] at found
    simpa using found
  have move := Memory.repository_move uids pool.world.state
    (.get revision.key.name revision.key.space : Call revision.key.kind)
  obtain ⟨state, resumed⟩ := Pool.turn_of_call (Memory.repository uids) clock waiting
  rw [answered] at resumed
  obtain ⟨last, updates, ends⟩ := resumes document { pool.world with
    state := ((Memory.repository uids).perform
      (.get revision.key.name revision.key.space : Call revision.key.kind) pool.world.state).2 }
  rw [updates] at resumed
  exact ⟨state.trans move.of_get, move.get_ok answered, pool.world.ticks, last, resumed, ends⟩

/-- The update of a writer succeeds exactly if its key was spared since its get, and then it takes
the place of the entry that was read. Otherwise it is a conflict and changes nothing. -/
theorem write_succeeds_iff_spared (reached : Reachable uids .all memory)
    (admitted : ∀ operation ∈ operations, operation.Admitted .all)
    {number : Nat} {operation : Operation} {revision : Revision}
    (entered : operations[number]? = some operation)
    (writes : operation.revision? = some revision)
    (before between after : List Nat) (first : number ∉ before) (waits : number ∉ between)
    {document : Resource revision.key.kind}
    (found : ((contest clock memory operations).run (Memory.repository uids) clock
        before).exchange? (Memory.repository uids) number =
      some ⟨number, _, .get revision.key.name revision.key.space, .ok document⟩) :
    let repository := Memory.repository uids
    let reading := (contest clock memory operations).run repository clock before
    let writing := (reading.turn repository clock number).run repository clock between
    let written := writing.turn repository clock number
    let ending := written.run repository clock after
    let meanwhile := (reading.turn repository clock number).exchanges repository clock between
    ∃ tick answer,
      writing.exchange? repository number = some ⟨number, _,
        .update (revision.revise (clock tick) document) revision.key.space, answer⟩ ∧
      ending.programs[number]? = some (.done (.document answer)) ∧
      ((∃ result, answer = .ok result) ↔ Spared revision.key meanwhile) ∧
      (¬ Spared revision.key meanwhile →
        answer = .error ⟨revision.key, .conflict⟩ ∧ written.world.state = writing.world.state) ∧
      (Spared revision.key meanwhile → ∃ stored,
        reading.world.state.find? revision.key = some stored ∧
        (Resource.decoder revision.key.kind).decodeValue stored.body = .ok document ∧
        writing.world.state.find? revision.key = some stored ∧
        written.world.state = (writing.world.state.write
          (revision.revise (clock tick) document) revision.key.space stored.uid).2) := by
  intro repository reading writing written ending meanwhile
  have stable := Vocabulary.all_stable
  have times (count : Nat) : Vocabulary.all.instants (clock count) := trivial
  have underway := (contest_underway stable (reached.sound stable) times admitted).run uids before
  obtain ⟨begin, -, started⟩ := contest_programs clock memory entered
  have waiting := (Pool.run_of_not_mem repository clock first).trans started
  obtain ⟨unmoved, ⟨stored, there, decoded⟩, tick, last, asks, ends⟩ :=
    writer_waits clock writes waiting found
  have asks := (Pool.run_of_not_mem repository clock waits).trans asks
  obtain ⟨state, done⟩ := Pool.turn_of_call repository clock asks
  rw [ends] at done
  have done := Pool.run_of_done repository clock done after
  have fate : Fate revision.key stored meanwhile writing.world.state :=
    (underway.turn uids number).fate uids (by rwa [unmoved]) between
  -- The document that was found has the name of the key and the version of the entry.
  obtain ⟨-, name, -, version, -⟩ := underway.sound.decoded stable there decoded
  have own : (revision.revise (clock tick) document).keyIn revision.key.space = revision.key := by
    rw [Operation.revise_keyIn writes, Resource.keyIn, name]
  have carried := (Operation.revise_version writes (clock tick) document).trans version
  have move := Memory.repository_move uids writing.world.state
    (.update (revision.revise (clock tick) document) revision.key.space)
  rw [← state] at move
  obtain ⟨succeeds, conflict, replaces⟩ := fate.update move own carried
  refine ⟨tick, _, Pool.exchange?_of_call asks, done, succeeds, conflict, fun spared => ?_⟩
  obtain ⟨held, after⟩ := replaces spared
  exact ⟨stored, there, decoded, held, after⟩

/-- A job that is submitted, and two clients that change its phase. -/
def racers : List Operation :=
  [.ask (.create (.new "nightly" "" .empty : CheckJob) "health"),
   .setPhase "nightly" "health" .running, .setPhase "nightly" "health" .failed]

/-- The client that reads first and writes last has lost. -/
theorem slow_writer_conflicts :
    let lost : Answer .checkJob := .error ⟨⟨.checkJob, "nightly", "health"⟩, .conflict⟩
    ((contest default .empty racers).run (Memory.repository toString) default
      [0, 1, 2, 2, 1]).programs[1]? = some (.done (.document lost)) := by
  let job : CheckJob := .new "nightly" "" .empty
  have decoded : job.Decoded := newJob_decoded "nightly" ""
  have admitted : ∀ operation ∈ racers, operation.Admitted .all := by
    simp only [racers, List.forall_mem_cons]
    exact ⟨⟨decoded, job.within_all⟩, trivial, trivial, fun _ none => nomatch none⟩
  have entered : racers[1]? = some (.setPhase "nightly" "health" .running) := rfl
  let fetched : CheckJob := Memory.stamp job "health" 1 "1"
  have found : ((contest default .empty racers).run (Memory.repository toString) default
      [0]).exchange? (Memory.repository toString) 1 =
        some ⟨1, .checkJob, .get "nightly" "health", .ok fetched⟩ := by
    with_unfolding_all rfl
  obtain ⟨tick, answer, -, done, -, conflict, -⟩ := write_succeeds_iff_spared .empty admitted
    entered rfl [0] [2, 2] [] (by decide) (by decide) found
  -- The other client has written in the meantime.
  let failed : CheckJob := revisedJob .failed fetched
  have meanwhile : ((contest default .empty racers).run (Memory.repository toString) default
      [0, 1]).exchanges (Memory.repository toString) default [2, 2] =
        [⟨2, .checkJob, .get "nightly" "health", .ok fetched⟩,
         ⟨2, .checkJob, .update failed "health", .ok (Memory.stamp failed "health" 2 "1")⟩] := by
    with_unfolding_all rfl
  have updated : ¬ Spared ⟨.checkJob, "nightly", "health"⟩
      (((contest default .empty racers).run (Memory.repository toString) default
        [0, 1]).exchanges (Memory.repository toString) default [2, 2]) := by
    rw [meanwhile]
    intro spared
    exact spared _ (List.mem_cons_of_mem _ List.mem_cons_self) ⟨rfl, rfl, _, rfl⟩
  rw [← (conflict updated).1]
  exact done

end HealthLedger.State
