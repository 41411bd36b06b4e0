import HealthLedger.Proofs.State.Candor
import HealthLedger.Proofs.State.Contest
import HealthLedger.Proofs.Store.Survival

/-!
# Readers that get no answer

A reader whose call was interrupted does not know whether it was carried out, and the same reader
or another one may try again. However often this happens, the state is created once at most and
not changed afterwards, a reader that succeeds finds it stored, and one that fails tells the
failure of an interruption (`readers_survive_lost_answers`).
-/

namespace HealthLedger.State

open Document (Key Vocabulary)
open Store (Answer Error Exchange Repository Memory Stored Clock World Counted Interruptions
  Survives creations)

/-- The world after operations that run one after the other. -/
def worldAfter {σ : Type} (repository : Repository σ) (clock : Clock)
    (operations : List Operation) (world : World σ) : World σ :=
  operations.foldl (fun world operation => (operation.program.run repository clock world).2) world

/-- A reader leaves in place what is stored. If it succeeds, its state is stored, and if it fails,
it tells the failure of an interruption. So it succeeds if no call of it is interrupted. -/
structure Operation.Weathers (plan : Interruptions) (key : Key) (operation : Operation)
    (outcome : Outcome) (start ended : Counted (Memory × List Exchange)) : Prop where
  /-- What is stored is left in place. -/
  kept : ∀ stored : Stored, start.state.1.find? key = some stored →
    ended.state.1.find? key = some stored
  /-- A reader that succeeds finds its state stored. -/
  stored : outcome.error? = none → ended.state.1.Holds key
  /-- A reader that fails tells the failure of an interruption of one of its calls. -/
  told : ∀ error, outcome.error? = some error →
    plan.Tell key start.calls ended.calls error ∧ ∃ step, outcome = operation.failure step error
  /-- A reader of which no call is interrupted succeeds. -/
  undisturbed : (∀ number, start.calls < number → number ≤ ended.calls → plan number = none) →
    outcome.error? = none

variable {uids : Nat → String} {plan : Interruptions} {vocabulary : Vocabulary}
  {consultation : Consultation} {counted ended : Counted (Memory × List Exchange)}
  {exchanges : List Exchange}

/-- An operation that fails only because of an interruption succeeds without one. -/
theorem Operation.Weathers.of_told {key : Key} {operation : Operation} {outcome : Outcome}
    (kept : ∀ stored : Stored, counted.state.1.find? key = some stored →
      ended.state.1.find? key = some stored)
    (stored : outcome.error? = none → ended.state.1.Holds key)
    (told : ∀ error, outcome.error? = some error →
      plan.Tell key counted.calls ended.calls error ∧
        ∃ step, outcome = operation.failure step error) :
    operation.Weathers plan key outcome counted ended := by
  refine ⟨kept, stored, told, fun undisturbed => ?_⟩
  cases failed : outcome.error? with
  | none => rfl
  | some error =>
    obtain ⟨⟨number, interruption, less, most, struck, -⟩, -⟩ := told error failed
    have free := (undisturbed number less most).symm.trans struck
    contradiction

/-- The get of a reader. -/
theorem Consultation.gets_reads (consultation : Consultation) (answer : Answer .checkState) :
    (consultation.gets answer).request.Reads vocabulary consultation.key :=
  ⟨rfl, rfl, trivial⟩

/-- The create of a reader. -/
theorem Consultation.creates_reads (consultation : Consultation) (answer : Answer .checkState) :
    (consultation.creates answer).request.Reads vocabulary consultation.key :=
  ⟨rfl, rfl, emptyState_sound _ _ _⟩

/-- Making sure of a state takes calls of a reader. -/
theorem Assurance.reads {result : Except Error Unit}
    (assurance : Assurance consultation exchanges result) :
    ∀ exchange ∈ exchanges, exchange.request.Reads vocabulary consultation.key := by
  obtain ⟨answer, rfl, -⟩ | ⟨missing, answer, rfl, -⟩ := assurance.asks
  · exact List.forall_mem_singleton.2 (consultation.gets_reads _)
  · exact List.forall_mem_cons.2 ⟨consultation.gets_reads _,
      List.forall_mem_singleton.2 (consultation.creates_reads _)⟩

section Outcomes

variable (stable : vocabulary.Stable) (legible : vocabulary.Legible .checkState)
  (sound : counted.state.1.Sound vocabulary) (doubt : plan.LeaveDoubt)

include stable legible sound doubt

/-- A reader is sure that its state exists only if it is stored, and fails to be sure only because
of an interruption. -/
theorem Assurance.told (leads : (Memory.unreliable uids plan).Leads counted exchanges ended)
    {result : Except Error Unit} (assurance : Assurance consultation exchanges result) :
    (result = .ok () → ended.state.1.Holds consultation.key) ∧
      ∀ error, result = .error error →
        plan.Tell consultation.key counted.calls ended.calls error := by
  obtain ⟨survives, calls⟩ := Memory.survives_reads stable leads assurance.reads
  cases assurance with
  | found state =>
    obtain ⟨got, -⟩ := leads
    have holds := (Memory.told_of_get legible sound doubt got).1 _ rfl
    exact ⟨fun _ => survives.holds holds, nofun⟩
  | @unknown error other =>
    obtain ⟨got, -⟩ := leads
    refine ⟨nofun, fun failure failed => ?_⟩
    obtain rfl := Except.error.inj failed
    obtain ⟨-, missing⟩ | ⟨-, tell⟩ := (Memory.told_of_get legible sound doubt got).2 _ rfl
    · rw [other] at missing
      contradiction
    · exact tell.widen (Nat.le_refl _) (Nat.le_of_eq calls.symm)
  | created absent state =>
    obtain ⟨-, created, rfl⟩ := leads
    exact ⟨fun _ => (Memory.told_of_create doubt rfl created).1 _ rfl, nofun⟩
  | taken absent present =>
    obtain ⟨-, created, rfl⟩ := leads
    refine ⟨fun _ => ?_, nofun⟩
    obtain ⟨holds, -⟩ | ⟨other, -⟩ := (Memory.told_of_create doubt rfl created).2 _ rfl
    · exact holds
    · rw [present] at other
      contradiction
  | refused absent other =>
    obtain ⟨-, created, rfl⟩ := leads
    refine ⟨nofun, fun failure failed => ?_⟩
    obtain rfl := Except.error.inj failed
    obtain ⟨-, present⟩ | ⟨-, tell⟩ := (Memory.told_of_create doubt rfl created).2 _ rfl
    · rw [other] at present
      contradiction
    · rw [Memory.unreliable_calls] at tell
      exact tell.widen (Nat.le_succ _) (Nat.le_of_eq calls.symm)

/-- The state of a reader that is sure that it exists is still there when the reader gets it, and
only an interruption keeps it from getting it. -/
theorem Assurance.told_of_fetch {answer : Answer .checkState}
    (leads : (Memory.unreliable uids plan).Leads counted
      (exchanges ++ [consultation.gets answer]) ended)
    (assurance : Assurance consultation exchanges (.ok ())) :
    Survives vocabulary consultation.key counted.state ended.state ∧
      ended.state.1.Holds consultation.key ∧
        ∀ error, answer = .error error →
          plan.Tell consultation.key counted.calls ended.calls error := by
  obtain ⟨middle, assures, fetches⟩ := Repository.Leads.append_iff.1 leads
  obtain ⟨first, calls⟩ := Memory.survives_reads stable assures assurance.reads
  obtain ⟨second, last⟩ := Memory.survives_reads stable fetches
    (List.forall_mem_singleton.2 (consultation.gets_reads answer))
  have holds := (assurance.told stable legible sound doubt assures).1 rfl
  refine ⟨first.trans second, second.holds holds, fun error failed => ?_⟩
  obtain ⟨got, -⟩ := fetches
  obtain ⟨nothing, -⟩ | ⟨-, tell⟩ :=
    (Memory.told_of_get legible (first.sound sound) doubt got).2 error failed
  · exact absurd nothing holds.ne_none
  · exact tell.widen (by omega) (Nat.le_of_eq last.symm)

/-- What a reader comes to, whichever of its calls are interrupted. -/
theorem Operation.Course.weathers
    (leads : (Memory.unreliable uids plan).Leads counted exchanges ended) {operation : Operation}
    {outcome : Outcome} (course : operation.Course exchanges outcome)
    (reads : operation.consultation? = some consultation) :
    Survives vocabulary consultation.key counted.state ended.state ∧
      operation.Weathers plan consultation.key outcome counted ended := by
  cases course with
  | @ensured rawName space workload exchanges result assurance =>
    obtain rfl := Option.some.inj reads
    obtain ⟨survives, -⟩ := Memory.survives_reads stable leads assurance.reads
    obtain ⟨sure, tells⟩ := assurance.told stable legible sound doubt leads
    refine ⟨survives, .of_told survives.kept ?_ fun error failed => ?_⟩
    · cases result with
      | ok done => exact fun _ => sure rfl
      | error error => exact nofun
    · cases result with
      | ok done => contradiction
      | error other =>
        obtain rfl := Option.some.inj failed
        exact ⟨tells _ rfl, .existence, rfl⟩
  | unsure assurance =>
    obtain rfl := Option.some.inj reads
    obtain ⟨survives, -⟩ := Memory.survives_reads stable leads assurance.reads
    obtain ⟨-, tells⟩ := assurance.told stable legible sound doubt leads
    refine ⟨survives, .of_told survives.kept nofun fun error failed => ?_⟩
    obtain rfl := Option.some.inj failed
    exact ⟨tells _ rfl, .existence, rfl⟩
  | unread assurance error =>
    obtain rfl := Option.some.inj reads
    obtain ⟨survives, -, tells⟩ := assurance.told_of_fetch stable legible sound doubt leads
    refine ⟨survives, .of_told survives.kept nofun fun error failed => ?_⟩
    obtain rfl := Option.some.inj failed
    exact ⟨tells _ rfl, .fetch, rfl⟩
  | read assurance state =>
    obtain rfl := Option.some.inj reads
    obtain ⟨survives, holds, -⟩ := assurance.told_of_fetch stable legible sound doubt leads
    exact ⟨survives, .of_told survives.kept (fun _ => holds) nofun⟩
  | unchanged writes | revised writes =>
    rw [consultation?_of_revision writes] at reads
    contradiction

end Outcomes

/-- A reader that runs with interruptions. -/
theorem Operation.weathers (uids : Nat → String) (stable : vocabulary.Stable)
    (legible : vocabulary.Legible .checkState) (doubt : plan.LeaveDoubt) (clock : Clock)
    {operation : Operation} (reads : operation.consultation? = some consultation)
    (world : World (Counted (Memory × List Exchange)))
    (sound : world.state.state.1.Sound vocabulary) :
    let ended := operation.program.run (Memory.unreliable uids plan) clock world
    Survives vocabulary consultation.key world.state.state ended.2.state.state ∧
      operation.Weathers plan consultation.key ended.1 world.state ended.2.state := by
  have onStates : operation.OnStates := by
    cases operation with
    | ask => contradiction
    | ensure | read | write | setPhase => trivial
  have course := operation.course (Memory.unreliable uids plan) clock world onStates
  have leads := Store.Program.leads_transcript (Memory.unreliable uids plan) clock
    operation.program world
  exact course.weathers stable legible sound doubt leads reads

/-- Readers of one key that run one after the other, whichever of their calls are interrupted. -/
theorem worldAfter_survives (uids : Nat → String) (stable : vocabulary.Stable)
    (legible : vocabulary.Legible .checkState) (doubt : plan.LeaveDoubt) (clock : Clock)
    {key : Key} {operations : List Operation}
    (readers : ∀ operation ∈ operations, ∃ consultation,
      operation.consultation? = some consultation ∧ consultation.key = key)
    (world : World (Counted (Memory × List Exchange)))
    (sound : world.state.state.1.Sound vocabulary) :
    Survives vocabulary key world.state.state
      (worldAfter (Memory.unreliable uids plan) clock operations world).state.state := by
  induction operations generalizing world with
  | nil => exact .refl ..
  | cons operation rest ih =>
    obtain ⟨⟨consultation, reads, rfl⟩, others⟩ := List.forall_mem_cons.1 readers
    obtain ⟨first, -⟩ := operation.weathers uids stable legible doubt clock reads world sound
    exact first.trans (ih others _ (first.sound sound))

/-- If instants are read back as they were written, then readers of one key that run one after the
other create its state once at most, and never if it was there, whichever of their calls are
interrupted with failures that say nothing about what is stored, and whether these are carried out
or not. Each of them leaves in place what is stored, and succeeds only if its state is stored and
unless one of its calls was interrupted, whose failure it tells then. -/
theorem readers_survive_lost_answers (uids : Nat → String) {memory : Memory}
    (reached : Reachable uids (.ofInstants Time.Instant.Readable) memory)
    (doubt : plan.LeaveDoubt) (clock : Clock) {key : Key} {operations : List Operation}
    (readers : ∀ operation ∈ operations, ∃ consultation,
      operation.consultation? = some consultation ∧ consultation.key = key) :
    let store := Memory.unreliable uids plan
    let begin : World (Counted (Memory × List Exchange)) := ⟨⟨(memory, []), 0⟩, 0, []⟩
    let record := (worldAfter store clock operations begin).state.state.2
    creations record ≤ 1 ∧ (memory.Holds key → creations record = 0) ∧
      ∀ before operation after, operations = before ++ operation :: after →
        let start := worldAfter store clock before begin
        let ended := operation.program.run store clock start
        operation.Weathers plan key ended.1 start.state ended.2.state := by
  intro store begin record
  have stable : (Vocabulary.ofInstants Time.Instant.Readable).Stable :=
    Vocabulary.ofInstants_stable fun _ readable => readable
  have legible : (Vocabulary.ofInstants Time.Instant.Readable).Legible .checkState :=
    fun _ readable => readable
  have sound := reached.sound stable
  have whole := worldAfter_survives uids stable legible doubt clock readers begin sound
  refine ⟨?_, fun holds => ?_, ?_⟩
  · obtain same | ⟨-, -, more⟩ := whole.created
    · exact Nat.le_trans (Nat.le_of_eq same) (Nat.zero_le 1)
    · exact Nat.le_of_eq more
  · obtain same | ⟨nothing, -⟩ := whole.created
    · exact same
    · exact absurd nothing holds.ne_none
  · rintro before operation after rfl
    intro start ended
    obtain ⟨consultation, reads, rfl⟩ := readers operation (by simp)
    have earlier := worldAfter_survives uids stable legible doubt clock
      (fun operation there => readers operation (List.mem_append_left _ there)) begin sound
    exact (operation.weathers uids stable legible doubt clock reads start
      (earlier.sound sound)).2

/-- The second call is carried out, but its answer is lost. -/
def secondUnanswered : Interruptions := fun number =>
  if number = 2 then some ⟨fun key => ⟨key, .transport "connection reset"⟩, true⟩ else none

/-- A reader that gets no answer to its create has created the state, and the next one reads it. -/
theorem unanswered_create_read :
    let ensuring : Operation := .ensure "DB Ping" "health" .check
    let reading : Operation := .read "DB Ping" "health" .job
    let key : Key := ⟨.checkState, Name.sanitize "DB Ping", "health"⟩
    let store := Memory.unreliable toString secondUnanswered
    let ensured := ensuring.program.run store default ⟨⟨(.empty, []), 0⟩, 0, []⟩
    let ended := reading.program.run store default ensured.2
    ensured.1 = .ensured (.error ⟨key, .transport "connection reset"⟩) ∧
      creations ensured.2.state.state.2 = 1 ∧ ended.1.error? = none ∧
        creations ended.2.state.state.2 ≤ 1 := by
  intro ensuring reading key store ensured ended
  have doubt : secondUnanswered.LeaveDoubt := by
    intro number interruption struck key
    unfold secondUnanswered at struck
    split at struck
    · obtain rfl := Option.some.inj struck
      trivial
    · contradiction
  have readers : ∀ operation ∈ [ensuring, reading], ∃ consultation,
      operation.consultation? = some consultation ∧ consultation.key = key :=
    List.forall_mem_cons.2 ⟨⟨_, rfl, rfl⟩, List.forall_mem_singleton.2 ⟨_, rfl, rfl⟩⟩
  obtain ⟨once, -, each⟩ := readers_survive_lost_answers toString .empty doubt default readers
  have weathers := each [ensuring] reading [] rfl
  refine ⟨rfl, rfl, weathers.undisturbed fun number later _ => ?_, once⟩
  have calls : ensured.2.state.calls = 2 := rfl
  have less : 2 < number := calls ▸ later
  exact if_neg (by omega)

end HealthLedger.State
