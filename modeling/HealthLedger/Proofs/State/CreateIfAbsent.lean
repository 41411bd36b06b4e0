import HealthLedger.Proofs.State.Contest

/-!
# Readers create what they do not find

A reader gets a state, creates it if it is not found, and takes it well if someone else has
created it first. In every contest of operations on states and jobs in which all have time
enough, every reader succeeds, and of all readers of a state that was not there exactly the
first that comes to create it does so.
-/

namespace HealthLedger.State

open Document (Kind Key Resource CheckState Vocabulary)
open Store (Program Call Answer Error Protocol Pool Memory Stored Clock Exchange)

variable {uids : Nat → String} {clock : Clock} {vocabulary : Vocabulary} {memory : Memory}
  {operations : List Operation}

/-- What a reader comes to in a schedule: it is sure that its state exists, or it has the details
that its state had in the store when it got it last. -/
def Concluded (uids : Nat → String) (clock : Clock) (vocabulary : Vocabulary)
    (pool : Pool Outcome Memory) (schedule : List Nat) (number : Nat)
    (consultation : Consultation) : Operation → Prop
  | .read _ _ _ =>
    ∃ before after stored document, schedule = before ++ number :: after ∧
      (pool.run (Memory.repository uids) clock before).exchange? (Memory.repository uids) number =
        some ⟨number, .checkState, .get consultation.name consultation.space, .ok document⟩ ∧
      (pool.run (Memory.repository uids) clock before).world.state.find? consultation.key =
        some stored ∧
      stored.Shows vocabulary consultation.key document ∧
      (pool.run (Memory.repository uids) clock (before ++ [number])).programs[number]? =
        some (.done (.details (.ok document.spec))) ∧
      (pool.run (Memory.repository uids) clock schedule).programs[number]? =
        some (.done (.details (.ok document.spec)))
  | _ =>
    (pool.run (Memory.repository uids) clock schedule).programs[number]? =
      some (.done (.ensured (.ok ())))

/-- A reader ends in a schedule: its state is stored, and it has come to what it should. -/
structure Ends (uids : Nat → String) (clock : Clock) (vocabulary : Vocabulary)
    (pool : Pool Outcome Memory) (schedule : List Nat) (number : Nat) (operation : Operation)
    (consultation : Consultation) : Prop where
  /-- The state is stored. -/
  holds : (pool.run (Memory.repository uids) clock schedule).world.state.Holds consultation.key
  /-- The reader has come to what it should. -/
  concluded : Concluded uids clock vocabulary pool schedule number consultation operation

variable {pool : Pool Outcome Memory} {number : Nat} {operation : Operation}
  {consultation : Consultation}

/-- A reader that ends in a later part of a schedule ends in the schedule. -/
theorem Ends.prepend {before schedule : List Nat}
    (ends : Ends uids clock vocabulary (pool.run (Memory.repository uids) clock before) schedule
      number operation consultation) :
    Ends uids clock vocabulary pool (before ++ schedule) number operation consultation := by
  obtain ⟨holds, concluded⟩ := ends
  refine ⟨by rwa [Pool.run_append], ?_⟩
  cases operation with
  | read name space workload =>
    obtain ⟨earlier, after, stored, document, rfl, made, found, shown, done, kept⟩ := concluded
    refine ⟨before ++ earlier, after, stored, document, by simp, ?_, ?_, shown, ?_, ?_⟩
    · rwa [Pool.run_append]
    · rwa [Pool.run_append]
    · rwa [List.append_assoc, Pool.run_append]
    · rwa [Pool.run_append]
  | ensure | write | setPhase | ask =>
    unfold Concluded at concluded ⊢
    rwa [Pool.run_append]

/-- A reader that ends after one of its turns ends in the schedule. -/
theorem Ends.after_turn {before after : List Nat}
    (ends : Ends uids clock vocabulary
      ((pool.run (Memory.repository uids) clock before).turn (Memory.repository uids) clock number)
      after number operation consultation) :
    Ends uids clock vocabulary pool (before ++ number :: after) number operation consultation := by
  have same : before ++ number :: after = (before ++ [number]) ++ after := by simp
  rw [same]
  apply Ends.prepend
  rwa [Pool.run_append]

/-- A reader that is sure that its state exists ends with its next turn. -/
theorem assured_ends (underway : Underway clock vocabulary operations pool)
    (legible : vocabulary.Legible .checkState)
    (reads : operation.consultation? = some consultation) {program : Program Outcome}
    (there : pool.programs[number]? = some program) (assured : operation.Assured clock program)
    (holds : pool.world.state.Holds consultation.key) {schedule : List Nat}
    (coming : number ∈ schedule) :
    Ends uids clock vocabulary pool schedule number operation consultation := by
  refine ⟨underway.holds uids holds schedule, ?_⟩
  cases operation with
  | ensure name space workload =>
    obtain rfl := assured
    exact Pool.run_of_done _ clock there schedule
  | read name space workload =>
    obtain rfl := Option.some.inj reads
    obtain ⟨resume, rfl, resumes⟩ := assured
    obtain ⟨before, after, rfl, still, -⟩ :=
      Pool.next_turn (Memory.repository uids) clock pool coming
    have waiting := still.trans there
    have move := Memory.repository_move uids
      (pool.run (Memory.repository uids) clock before).world.state
      (.get (Name.sanitize name) space : Call .checkState)
    rcases move.get_legible legible (underway.run uids before).sound with
      ⟨nothing, -⟩ | ⟨stored, document, found, shown, answer⟩
    · obtain ⟨stored, found⟩ := underway.holds uids holds before
      have missing := nothing.symm.trans found
      contradiction
    · have turned := (Pool.turn_of_call (Memory.repository uids) clock waiting).2
      rw [answer, resumes] at turned
      refine ⟨before, after, stored, document, rfl, ?_, found, shown, ?_, ?_⟩
      · rw [Pool.exchange?_of_call waiting, answer]
      · rwa [Pool.run_append]
      · rw [Pool.run_append]
        exact Pool.run_of_done _ clock turned after
  | write | setPhase | ask => contradiction

/-- A reader that waits at its create ends with its next two turns. -/
theorem creating_ends (underway : Underway clock vocabulary operations pool)
    (legible : vocabulary.Legible .checkState)
    (reads : operation.consultation? = some consultation) {program : Program Outcome}
    (there : pool.programs[number]? = some program)
    (creating : operation.Creating clock consultation program) {schedule : List Nat}
    (enough : 2 ≤ schedule.count number) :
    Ends uids clock vocabulary pool schedule number operation consultation := by
  obtain ⟨last, rfl, created, taken⟩ := creating
  obtain ⟨before, after, rfl, still, count⟩ := Pool.next_turn (Memory.repository uids) clock pool
    (List.count_pos_iff.1 (by omega : 0 < schedule.count number))
  have coming : number ∈ after := List.count_pos_iff.1 (by omega)
  obtain ⟨state, turned⟩ :=
    Pool.turn_of_call (Memory.repository uids) clock (still.trans there)
  have next := (underway.run uids before).turn uids number
  have move := Memory.repository_move uids
    (pool.run (Memory.repository uids) clock before).world.state
    (.create consultation.state consultation.space)
  apply Ends.after_turn
  rcases move.create_fresh rfl with ⟨nothing, answer, after⟩ | ⟨found, answer, after⟩
  · rw [answer] at turned
    refine assured_ends next legible reads turned (created _ _) ?_ coming
    rw [state, after]
    exact ⟨_, Memory.find?_write_self _ _ _ _⟩
  · rw [answer] at turned
    refine assured_ends next legible reads turned (taken _ _ rfl) ?_ coming
    rw [state, after]
    exact found

/-- A reader that has not begun ends with its next three turns. -/
theorem asking_ends (underway : Underway clock vocabulary operations pool)
    (legible : vocabulary.Legible .checkState)
    (reads : operation.consultation? = some consultation) {begin : Store.World Memory}
    (there : pool.programs[number]? = some (operation.program.settle clock begin).1)
    {schedule : List Nat} (enough : 3 ≤ schedule.count number) :
    Ends uids clock vocabulary pool schedule number operation consultation := by
  obtain ⟨resume, asks, assured, creating⟩ :=
    Operation.program_of_consultation reads clock begin
  rw [asks] at there
  obtain ⟨before, after, rfl, still, count⟩ := Pool.next_turn (Memory.repository uids) clock pool
    (List.count_pos_iff.1 (by omega : 0 < schedule.count number))
  obtain ⟨state, turned⟩ :=
    Pool.turn_of_call (Memory.repository uids) clock (still.trans there)
  have next := (underway.run uids before).turn uids number
  have move := Memory.repository_move uids
    (pool.run (Memory.repository uids) clock before).world.state
    (.get consultation.name consultation.space : Call .checkState)
  rw [move.of_get] at state
  apply Ends.after_turn
  rcases move.get_legible legible (underway.run uids before).sound with
    ⟨nothing, answer⟩ | ⟨stored, document, found, shown, answer⟩
  · rw [answer] at turned
    exact creating_ends next legible reads turned (creating _ _ rfl) (by omega)
  · rw [answer] at turned
    have coming : number ∈ after := List.count_pos_iff.1 (by omega)
    refine assured_ends next legible reads turned (assured _ _) ?_ coming
    rw [state]
    exact ⟨stored, found⟩

/-- The calls of an operation on states and jobs that are creates are those of readers. -/
theorem create_exchange (underway : Underway clock vocabulary operations pool)
    (onStates : ∀ operation ∈ operations, operation.OnStates) {exchange : Exchange}
    (made : pool.exchange? (Memory.repository uids) number = some exchange)
    (isCreate : exchange.request.isCreate) :
    ∃ operation consultation, operations[number]? = some operation ∧
      operation.consultation? = some consultation ∧
      exchange = ⟨number, .checkState, .create consultation.state consultation.space,
        ((Memory.repository uids).perform (.create consultation.state consultation.space)
          pool.world.state).1⟩ := by
  obtain ⟨operation, entered, makes⟩ := underway.makes made
  obtain ⟨kind, request, resume, -, rfl⟩ := Pool.call_of_exchange? made
  have makes : operation.Makes request := makes
  cases makes with
  | get | update => contradiction
  | create reads => exact ⟨operation, _, entered, reads, rfl⟩
  | ask alone =>
    have none := onStates operation (List.mem_of_getElem? entered)
    rw [alone] at none
    exact none.elim

/-- Of a key under which something is stored every create finds it taken. -/
theorem creates_taken (underway : Underway clock vocabulary operations pool)
    (onStates : ∀ operation ∈ operations, operation.OnStates) {key : Key}
    (holds : pool.world.state.Holds key) {schedule : List Nat} {exchange : Exchange}
    (made : exchange ∈ pool.exchanges (Memory.repository uids) clock schedule)
    (creates : exchange.Creates key) : exchange.answer = .error ⟨key, .alreadyExists⟩ := by
  obtain ⟨before, number, after, rfl, turned⟩ := Pool.mem_exchanges.1 made
  obtain ⟨stored, found⟩ := underway.holds uids holds before
  obtain ⟨operation, consultation, entered, reads, rfl⟩ :=
    create_exchange (underway.run uids before) onStates turned creates.1
  have move := Memory.repository_move uids
    (pool.run (Memory.repository uids) clock before).world.state
    (.create consultation.state consultation.space)
  obtain rfl : consultation.key = key := creates.2
  rcases move.create_fresh rfl with ⟨nothing, -, -⟩ | ⟨-, answer, -⟩
  · have missing := nothing.symm.trans found
    contradiction
  · exact answer

/-- A key is created once in a schedule: by the reader that comes first to create it, with the
empty state of its workload. Every later create finds the key taken. -/
def CreatedOnce (uids : Nat → String) (clock : Clock) (operations : List Operation)
    (pool : Pool Outcome Memory) (schedule : List Nat) (key : Key) : Prop :=
  ∃ before number after operation consultation version,
    schedule = before ++ number :: after ∧ operations[number]? = some operation ∧
    operation.consultation? = some consultation ∧ consultation.key = key ∧
    (∀ exchange ∈ pool.exchanges (Memory.repository uids) clock before,
      ¬ exchange.Creates key) ∧
    (pool.run (Memory.repository uids) clock before).exchange? (Memory.repository uids) number =
      some ⟨number, .checkState, .create consultation.state consultation.space,
        .ok (Memory.stamp consultation.state consultation.space version (uids version))⟩ ∧
    (pool.run (Memory.repository uids) clock (before ++ [number])).world.state.find? key =
      some ⟨version, uids version, (Memory.stamp consultation.state consultation.space version
        (uids version)).toValue⟩ ∧
    ∀ exchange ∈ (pool.run (Memory.repository uids) clock (before ++ [number])).exchanges
      (Memory.repository uids) clock after,
      exchange.Creates key → exchange.answer = .error ⟨key, .alreadyExists⟩

/-- A key that is not created in a turn, but once in the schedule behind it, is created once. -/
theorem CreatedOnce.cons {schedule : List Nat} {key : Key}
    (silent : ∀ exchange ∈ pool.exchange? (Memory.repository uids) number,
      ¬ exchange.Creates key)
    (once : CreatedOnce uids clock operations
      (pool.turn (Memory.repository uids) clock number) schedule key) :
    CreatedOnce uids clock operations pool (number :: schedule) key := by
  obtain ⟨before, other, after, operation, consultation, version, rfl, entered, reads, same, early,
    made, found, taken⟩ := once
  refine ⟨number :: before, other, after, operation, consultation, version, rfl, entered, reads,
    same, ?_, made, found, taken⟩
  intro exchange there
  rcases List.mem_append.1 there with now | soon
  · exact silent exchange (Option.mem_toList.1 now)
  · exact early exchange soon

/-- A key under which nothing is stored and that is created in a turn is created once. -/
theorem createdOnce_of_creates (underway : Underway clock vocabulary operations pool)
    (onStates : ∀ operation ∈ operations, operation.OnStates) {key : Key}
    (nothing : pool.world.state.find? key = none) {exchange : Exchange}
    (made : pool.exchange? (Memory.repository uids) number = some exchange)
    (creates : exchange.Creates key) (schedule : List Nat) :
    CreatedOnce uids clock operations pool (number :: schedule) key := by
  have state := Pool.turn_state_of_exchange clock made
  have move := Memory.repository_move uids pool.world.state exchange.request
  obtain ⟨operation, consultation, entered, reads, rfl⟩ :=
    create_exchange underway onStates made creates.1
  obtain rfl : consultation.key = key := creates.2
  rcases move.create_fresh rfl with ⟨-, answer, after⟩ | ⟨⟨stored, found⟩, -⟩
  · have found := Memory.find?_write_self pool.world.state consultation.state
      consultation.space (uids (pool.world.state.lastVersion + 1))
    rw [← after, ← state] at found
    rw [answer] at made
    exact ⟨[], number, schedule, operation, consultation, _, rfl, entered, reads, rfl,
      fun exchange there => absurd there List.not_mem_nil, made, found,
      fun exchange there => creates_taken (underway.turn uids number) onStates ⟨_, found⟩ there⟩
  · have missing := nothing.symm.trans found
    contradiction

/-- If nothing is stored under a key, either it is not created and nothing is stored, or it is
created once. -/
theorem created_once (underway : Underway clock vocabulary operations pool)
    (onStates : ∀ operation ∈ operations, operation.OnStates) {key : Key}
    (nothing : pool.world.state.find? key = none) (schedule : List Nat) :
    (pool.run (Memory.repository uids) clock schedule).world.state.find? key = none ∨
      CreatedOnce uids clock operations pool schedule key := by
  induction schedule generalizing pool with
  | nil => exact .inl nothing
  | cons number rest ih =>
    cases made : pool.exchange? (Memory.repository uids) number with
    | none =>
      have silent : ∀ exchange ∈ pool.exchange? (Memory.repository uids) number,
          ¬ exchange.Creates key := by
        simp [made]
      refine (ih (underway.turn uids number) ?_).imp_right (.cons silent)
      rwa [Pool.turn_state_of_silent made]
    | some exchange =>
      by_cases creates : exchange.Creates key
      · exact .inr (createdOnce_of_creates underway onStates nothing made creates rest)
      · have silent : ∀ other ∈ pool.exchange? (Memory.repository uids) number,
            ¬ other.Creates key := by
          intro other there
          obtain rfl := Option.some.inj (made.symm.trans there)
          exact creates
        refine (ih (underway.turn uids number) ?_).imp_right (.cons silent)
        rw [Pool.turn_state_of_exchange clock made]
        exact (Memory.repository_move uids pool.world.state exchange.request).keeps_none nothing
          creates

/-- A turn of a reader leaves every entry as it is. -/
theorem reader_keeps (underway : Underway clock vocabulary operations pool)
    (entered : operations[number]? = some operation)
    (reads : operation.consultation? = some consultation) {key : Key} {stored : Stored}
    (found : pool.world.state.find? key = some stored) :
    (pool.turn (Memory.repository uids) clock number).world.state.find? key = some stored := by
  cases Pool.turn_fate uids clock underway.sound found number with
  | kept _ found => exact found
  | replaced updated =>
    refine absurd (fun exchange there => ?_) updated
    rintro ⟨isUpdate, -⟩
    obtain ⟨other, there', makes⟩ := underway.makes (Option.mem_toList.1 there)
    obtain rfl := Option.some.inj (entered.symm.trans there')
    obtain ⟨_, kind, request, answer⟩ := exchange
    have makes : operation.Makes request := makes
    cases makes with
    | get | create => contradiction
    | update writes => cases operation <;> contradiction
    | ask alone =>
      rw [alone] at reads
      contradiction

/-- Operations on states and jobs bring nothing in that was to be decoded. -/
theorem admitted_of_onStates {instants : Time.Instant → Prop} {operation : Operation}
    (onStates : operation.OnStates) : operation.Admitted (.ofInstants instants) := by
  cases operation with
  | ask => exact onStates.elim
  | ensure | read | write | setPhase => trivial

/-- If instants are read back as they were written, then every reader that has as many turns in a
schedule as it may need ends with its state stored. A state that was not there is created once,
one that was there never, and no reader changes an entry. -/
theorem readers_converge (uids : Nat → String)
    (reached : Reachable uids (.ofInstants Time.Instant.Readable) memory)
    (readable : ∀ count, (clock count).Readable)
    (onStates : ∀ operation ∈ operations, operation.OnStates) (schedule : List Nat) :
    let pool := contest clock memory operations
    (∀ number operation consultation, operations[number]? = some operation →
      operation.consultation? = some consultation → callLimit ≤ schedule.count number →
      Ends uids clock (.ofInstants Time.Instant.Readable) pool schedule number operation
        consultation ∧
      (memory.find? consultation.key = none →
        CreatedOnce uids clock operations pool schedule consultation.key) ∧
      (memory.Holds consultation.key →
        ∀ exchange ∈ pool.exchanges (Memory.repository uids) clock schedule,
          exchange.Creates consultation.key →
          exchange.answer = .error ⟨consultation.key, .alreadyExists⟩)) ∧
    ∀ before number after operation consultation key stored,
      schedule = before ++ number :: after → operations[number]? = some operation →
      operation.consultation? = some consultation →
      (pool.run (Memory.repository uids) clock before).world.state.find? key = some stored →
      (pool.run (Memory.repository uids) clock (before ++ [number])).world.state.find? key =
        some stored := by
  intro pool
  have stable : (Vocabulary.ofInstants Time.Instant.Readable).Stable :=
    Vocabulary.ofInstants_stable fun _ readable => readable
  have legible : (Vocabulary.ofInstants Time.Instant.Readable).Legible .checkState :=
    fun _ readable => readable
  have admitted (operation : Operation) (entered : operation ∈ operations) :
      operation.Admitted (.ofInstants Time.Instant.Readable) :=
    admitted_of_onStates (onStates operation entered)
  have underway : Underway clock _ operations pool :=
    contest_underway stable (reached.sound stable) readable admitted
  have begins : pool.world.state = memory := contest_state
  refine ⟨fun number operation consultation entered reads enough => ?_, ?_⟩
  · obtain ⟨begin, -, started⟩ := contest_programs clock memory entered
    have ends : Ends uids clock _ pool schedule number operation consultation :=
      asking_ends underway legible reads started enough
    refine ⟨ends, fun nothing => ?_, fun holds exchange there creates => ?_⟩
    · rw [← begins] at nothing
      obtain ⟨stored, found⟩ := ends.holds
      rcases created_once underway onStates nothing schedule with still | once
      · have missing := still.symm.trans found
        contradiction
      · exact once
    · rw [← begins] at holds
      exact creates_taken underway onStates holds there creates
  · intro before number after operation consultation key stored _ entered reads found
    rw [Pool.run_append]
    exact reader_keeps (underway.run uids before) entered reads found

/-- Two clients that read the same state, which is not there. -/
def readers : List Operation :=
  [.ensure "DB Ping" "health" .check, .read "db ping" "health" .job]

/-- The state of both readers is created once, and the second one comes to its details. -/
theorem both_readers_end :
    CreatedOnce toString default readers (contest default .empty readers) [0, 1, 1, 0, 0, 1]
        ⟨.checkState, Name.sanitize "db ping", "health"⟩ ∧
      Ends toString default (.ofInstants Time.Instant.Readable)
        (contest default .empty readers) [0, 1, 1, 0, 0, 1] 1 (.read "db ping" "health" .job)
        ⟨Name.sanitize "db ping", "health", .job⟩ := by
  have readable (count : Nat) : Time.Instant.Readable ((default : Clock) count) := by
    show Time.Instant.parse (default : Time.Instant).text = .ok default
    rfl
  have onStates : ∀ operation ∈ readers, operation.OnStates := by
    simp [readers, Operation.OnStates]
  have converge := (readers_converge toString .empty readable onStates [0, 1, 1, 0, 0, 1]).1
  obtain ⟨ends, created, -⟩ := converge 1 (.read "db ping" "health" .job)
    ⟨Name.sanitize "db ping", "health", .job⟩ rfl rfl (by decide)
  exact ⟨created rfl, ends⟩

end HealthLedger.State
