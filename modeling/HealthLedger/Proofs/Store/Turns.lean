import HealthLedger.Store.Schedule

/-!
# What turns do to a pool

A turn makes one call, changes the store as the call does and takes one program to its next
call; the other programs stay where they are. What the programs of a pool ask of the store is
recorded as a list of exchanges. A protocol says which calls a program makes as long as it is
given the answers and the times it expects; a pool whose programs keep to protocols does so in
every run, as long as the store answers as expected and keeps an invariant
(`Pool.Obeys.run`).
-/

namespace HealthLedger.Store

open Document (Kind)

variable {α β σ : Type} {repository : Repository σ} {clock : Clock}

namespace Program

/-- Events and the clock do not change the store. -/
@[simp] theorem settle_state (program : Program α) (world : World σ) :
    (program.settle clock world).2.state = world.state := by
  induction program generalizing world with
  | done result => rfl
  | call request resume ih => rfl
  | tell event rest ih => exact ih _
  | now resume ih => exact ih _ _

/-- A program runs as it does from its next call or its end on. -/
theorem run_settle (repository : Repository σ) (clock : Clock) (program : Program α)
    (world : World σ) :
    (program.settle clock world).1.run repository clock (program.settle clock world).2 =
      program.run repository clock world := by
  induction program generalizing world with
  | done result => rfl
  | call request resume ih => rfl
  | tell event rest ih => exact ih _
  | now resume ih => exact ih _ _

/-- A program that waits at a call runs on with the answer. -/
theorem run_of_settle_call {program : Program α} {world : World σ} {kind : Kind}
    {request : Call kind} {resume : Answer kind → Program α}
    (waits : (program.settle clock world).1 = .call request resume) (repository : Repository σ) :
    program.run repository clock world =
      (resume (repository.perform request world.state).1).run repository clock
        { (program.settle clock world).2 with
          state := (repository.perform request world.state).2 } := by
  rw [← run_settle, waits, run, settle_state]

/-- A program that makes no further call leaves the store as it is. -/
theorem run_of_settle_done {program : Program α} {world : World σ} {result : α}
    (ends : (program.settle clock world).1 = .done result) (repository : Repository σ) :
    (program.run repository clock world).2.state = world.state := by
  rw [← run_settle, ends, run, settle_state]

end Program

/-- Which calls a program makes, and which answers and times it expects. -/
structure Protocol where
  /-- The calls that may be made. -/
  calls : {kind : Kind} → Call kind → Prop
  /-- The answers that may be given. -/
  answers : {kind : Kind} → Answer kind → Prop
  /-- The times the clock may show. -/
  times : Time.Instant → Prop

namespace Program

/-- The program makes only calls of the protocol, as long as it is given the answers and the times
of the protocol. -/
def Keeps (protocol : Protocol) : Program α → Prop
  | .done _ => True
  | .call request resume =>
    protocol.calls request ∧ ∀ answer, protocol.answers answer → (resume answer).Keeps protocol
  | .tell _ rest => rest.Keeps protocol
  | .now resume => ∀ time, protocol.times time → (resume time).Keeps protocol

variable {protocol : Protocol}

/-- Two parts that keep to a protocol keep to it one after the other. -/
theorem Keeps.bind {program : Program α} {next : α → Program β}
    (keeps : program.Keeps protocol) (then_ : ∀ result, (next result).Keeps protocol) :
    (program.bind next).Keeps protocol := by
  induction program with
  | done result => exact then_ result
  | call request resume ih =>
    exact ⟨keeps.1, fun answer expected => ih answer (keeps.2 answer expected)⟩
  | tell event rest ih => exact ih keeps
  | now resume ih => exact fun time expected => ih time (keeps time expected)

/-- Events and expected times lead to a program that keeps to the protocol. -/
theorem Keeps.settle {program : Program α} (keeps : program.Keeps protocol)
    (times : ∀ count, protocol.times (clock count)) (world : World σ) :
    (program.settle clock world).1.Keeps protocol := by
  induction program generalizing world with
  | done result => trivial
  | call request resume ih => exact keeps
  | tell event rest ih => exact ih keeps _
  | now resume ih => exact ih _ (keeps _ (times _)) _

end Program

namespace Pool

variable {pool : Pool α σ}

/-- Starting a program leaves the others and the store as they are, and puts the program, up to
its first call, behind the others. -/
theorem start_spec (clock : Clock) (pool : Pool α σ) (program : Program α) :
    ∃ world : World σ, world.state = pool.world.state ∧
      (pool.start clock program).programs =
        pool.programs ++ [(program.settle clock world).1] ∧
      (pool.start clock program).world.state = pool.world.state := by
  refine ⟨pool.world, rfl, ?_, ?_⟩
  · simp [start, replace]
  · simp [start, replace]

/-- Programs are started one after the other behind those that are there. -/
private theorem foldl_start (clock : Clock) (programs : List (Program α)) (pool : Pool α σ) :
    (programs.foldl (start clock) pool).world.state = pool.world.state ∧
      (programs.foldl (start clock) pool).programs.length =
        pool.programs.length + programs.length ∧
      (∀ number < pool.programs.length,
        (programs.foldl (start clock) pool).programs[number]? = pool.programs[number]?) ∧
      ∀ number program, programs[number]? = some program →
        ∃ world : World σ, world.state = pool.world.state ∧
          (programs.foldl (start clock) pool).programs[pool.programs.length + number]? =
            some (program.settle clock world).1 := by
  induction programs generalizing pool with
  | nil => simp
  | cons first rest ih =>
    obtain ⟨world, same, behind, kept⟩ := start_spec clock pool first
    obtain ⟨state, length, others, settled⟩ := ih (pool.start clock first)
    have longer : (pool.start clock first).programs.length = pool.programs.length + 1 := by
      simp [behind]
    refine ⟨state.trans kept, ?_, ?_, ?_⟩
    · rw [List.foldl_cons, length, longer, List.length_cons]
      omega
    · intro number less
      rw [List.foldl_cons, others number (by omega), behind, List.getElem?_append_left less]
    · intro number program found
      rw [List.foldl_cons]
      cases number with
      | zero =>
        obtain rfl : first = program := by simpa using found
        refine ⟨world, same, ?_⟩
        rw [others _ (by omega), behind]
        simp
      | succ number =>
        obtain ⟨world, same, found⟩ := settled number program (by simpa using found)
        refine ⟨world, same.trans kept, ?_⟩
        rw [← found, longer]
        congr 1
        omega

/-- Starting programs does not change the store. -/
@[simp] theorem ofPrograms_state (world : World σ) (programs : List (Program α)) :
    (ofPrograms clock world programs).world.state = world.state :=
  (foldl_start clock programs _).1

/-- There are as many programs as were started. -/
@[simp] theorem ofPrograms_length (world : World σ) (programs : List (Program α)) :
    (ofPrograms clock world programs).programs.length = programs.length := by
  have length := (foldl_start clock programs ⟨[], [], world⟩).2.1
  simpa [ofPrograms] using length

/-- Every program was started in the store at hand and waits at its first call. -/
theorem ofPrograms_programs (clock : Clock) (world : World σ) {programs : List (Program α)}
    {number : Nat}
    {program : Program α} (found : programs[number]? = some program) :
    ∃ begin : World σ, begin.state = world.state ∧
      (ofPrograms clock world programs).programs[number]? =
        some (program.settle clock begin).1 := by
  have settled := (foldl_start clock programs ⟨[], [], world⟩).2.2.2 number program found
  simpa [ofPrograms] using settled

/-- A turn advances the program whose turn it is. -/
theorem turn_eq (repository : Repository σ) (clock : Clock) {number : Nat} {program : Program α}
    (found : pool.programs[number]? = some program) :
    (pool.turn repository clock number).world = (program.advance repository clock pool.world).2 ∧
      (pool.turn repository clock number).programs[number]? =
        some (program.advance repository clock pool.world).1 := by
  have within := (List.getElem?_eq_some_iff.1 found).1
  unfold turn
  rw [found]
  exact ⟨rfl, List.getElem?_set_self within⟩

/-- The program whose turn it is makes its call and goes on with the answer to its next call. -/
theorem turn_of_call (repository : Repository σ) (clock : Clock)
    {number : Nat} {kind : Kind} {request : Call kind}
    {resume : Answer kind → Program α}
    (found : pool.programs[number]? = some (.call request resume)) :
    (pool.turn repository clock number).world.state =
        (repository.perform request pool.world.state).2 ∧
      (pool.turn repository clock number).programs[number]? =
        some ((resume (repository.perform request pool.world.state).1).settle clock
          { pool.world with state := (repository.perform request pool.world.state).2 }).1 := by
  obtain ⟨world, program⟩ := turn_eq repository clock found
  refine ⟨?_, program⟩
  rw [world]
  exact Program.settle_state _ _

/-- A turn of a program that has a result changes neither the program nor the store. -/
theorem turn_of_done (repository : Repository σ) (clock : Clock)
    {number : Nat} {result : α}
    (found : pool.programs[number]? = some (.done result)) :
    (pool.turn repository clock number).world.state = pool.world.state ∧
      (pool.turn repository clock number).programs[number]? = some (.done result) := by
  obtain ⟨world, program⟩ := turn_eq repository clock found
  exact ⟨by rw [world]; rfl, program⟩

/-- A turn does not move the other programs. -/
theorem turn_of_ne (repository : Repository σ) (clock : Clock)
    {number other : Nat} (different : other ≠ number) :
    (pool.turn repository clock number).programs[other]? = pool.programs[other]? := by
  unfold turn
  split
  · rfl
  · exact List.getElem?_set_ne different.symm

/-- A program that gets no turn in a schedule does not move. -/
theorem run_of_not_mem (repository : Repository σ) (clock : Clock)
    {number : Nat} {schedule : List Nat} (absent : number ∉ schedule) :
    (pool.run repository clock schedule).programs[number]? = pool.programs[number]? := by
  induction schedule generalizing pool with
  | nil => rfl
  | cons first rest ih =>
    obtain ⟨different, absent⟩ := List.ne_and_not_mem_of_not_mem_cons absent
    exact (ih absent).trans (turn_of_ne repository clock different)

/-- Up to its next turn a program does not move. -/
theorem next_turn (repository : Repository σ) (clock : Clock) (pool : Pool α σ) {number : Nat}
    {schedule : List Nat} (coming : number ∈ schedule) :
    ∃ before after, schedule = before ++ number :: after ∧
      (pool.run repository clock before).programs[number]? = pool.programs[number]? ∧
      after.count number + 1 = schedule.count number := by
  obtain ⟨before, after, rfl, absent⟩ := List.eq_append_cons_of_mem coming
  refine ⟨before, after, rfl, run_of_not_mem repository clock absent, ?_⟩
  rw [List.count_append, List.count_cons_self, List.count_eq_zero_of_not_mem absent, Nat.zero_add]

/-- A program that has a result keeps it. -/
theorem run_of_done (repository : Repository σ) (clock : Clock) {number : Nat} {result : α}
    (found : pool.programs[number]? = some (.done result)) (schedule : List Nat) :
    (pool.run repository clock schedule).programs[number]? = some (.done result) := by
  induction schedule generalizing pool with
  | nil => exact found
  | cons first rest ih =>
    by_cases same : number = first
    · subst same
      exact ih (turn_of_done repository clock found).2
    · exact ih ((turn_of_ne repository clock same).trans found)

end Pool

/-- A call, the number of the program that made it, and its answer. -/
structure Exchange where
  /-- The number of the program. -/
  client : Nat
  /-- The kind of document. -/
  kind : Kind
  /-- The call. -/
  request : Call kind
  /-- The answer. -/
  answer : Answer kind

namespace Pool

variable {pool : Pool α σ}

/-- The exchange of the next turn of a program, if it waits at a call. -/
def exchange? (repository : Repository σ) (pool : Pool α σ) (number : Nat) : Option Exchange :=
  match pool.programs[number]? with
  | some (.call request _) =>
    some ⟨number, _, request, (repository.perform request pool.world.state).1⟩
  | _ => none

/-- The exchanges of a schedule in their order. -/
def exchanges (repository : Repository σ) (clock : Clock) (pool : Pool α σ) :
    List Nat → List Exchange
  | [] => []
  | number :: rest =>
    (pool.exchange? repository number).toList ++
      (pool.turn repository clock number).exchanges repository clock rest

/-- The exchange of a program that waits at a call. -/
theorem exchange?_of_call {number : Nat} {kind : Kind} {request : Call kind}
    {resume : Answer kind → Program α}
    (found : pool.programs[number]? = some (.call request resume)) :
    pool.exchange? repository number =
      some ⟨number, kind, request, (repository.perform request pool.world.state).1⟩ := by
  rw [exchange?, found]

/-- A program with an exchange waits at the call of the exchange. -/
theorem call_of_exchange? {number : Nat} {exchange : Exchange}
    (made : pool.exchange? repository number = some exchange) :
    ∃ (kind : Kind) (request : Call kind) (resume : Answer kind → Program α),
      pool.programs[number]? = some (.call request resume) ∧
        exchange = ⟨number, kind, request, (repository.perform request pool.world.state).1⟩ := by
  unfold exchange? at made
  split at made
  · next kind request resume found =>
    exact ⟨kind, request, resume, found, (Option.some.inj made).symm⟩
  · contradiction

/-- A turn without an exchange leaves the store as it is. -/
theorem turn_state_of_silent {number : Nat} (silent : pool.exchange? repository number = none) :
    (pool.turn repository clock number).world.state = pool.world.state := by
  cases found : pool.programs[number]? with
  | none => simp only [turn, found]
  | some program =>
    unfold exchange? at silent
    rw [(turn_eq repository clock found).1]
    rw [found] at silent
    cases program with
    | call request resume => contradiction
    | done | tell | now => exact Program.settle_state _ pool.world

/-- The store behind a turn with an exchange is the one behind its call. -/
theorem turn_state_of_exchange (clock : Clock) {number : Nat} {exchange : Exchange}
    (made : pool.exchange? repository number = some exchange) :
    (pool.turn repository clock number).world.state =
      (repository.perform exchange.request pool.world.state).2 := by
  obtain ⟨kind, request, resume, found, rfl⟩ := call_of_exchange? made
  exact (turn_of_call repository clock found).1

/-- Every exchange of a schedule is that of one of its turns. -/
theorem mem_exchanges {schedule : List Nat} {exchange : Exchange} :
    exchange ∈ pool.exchanges repository clock schedule ↔
      ∃ before number after, schedule = before ++ number :: after ∧
        (pool.run repository clock before).exchange? repository number = some exchange := by
  induction schedule generalizing pool with
  | nil => simp [exchanges]
  | cons first rest ih =>
    rw [exchanges, List.mem_append, Option.mem_toList, ih]
    constructor
    · rintro (now | ⟨before, number, after, rfl, later⟩)
      · exact ⟨[], first, rest, rfl, now⟩
      · exact ⟨first :: before, number, after, rfl, later⟩
    · rintro ⟨before, number, after, split, made⟩
      cases before with
      | nil =>
        obtain ⟨rfl, rfl⟩ := List.cons.inj split
        exact .inl made
      | cons head before =>
        obtain ⟨rfl, rfl⟩ := List.cons.inj split
        exact .inr ⟨before, number, after, rfl, made⟩

end Pool

/-- The store answers the calls of a protocol as the protocol expects, and keeps an invariant. -/
def Repository.Serves (repository : Repository σ) (invariant : σ → Prop) (protocol : Protocol) :
    Prop :=
  ∀ ⦃kind : Kind⦄ (request : Call kind) (state : σ), invariant state →
    protocol.calls request → protocol.answers (repository.perform request state).1 ∧
      invariant (repository.perform request state).2

namespace Pool

variable {pool : Pool α σ} {protocol : Nat → Protocol} {invariant : σ → Prop}

/-- The store has an invariant and every program keeps to its protocol. -/
structure Obeys (protocol : Nat → Protocol) (invariant : σ → Prop) (pool : Pool α σ) : Prop where
  /-- The store has the invariant. -/
  store : invariant pool.world.state
  /-- The programs keep to their protocols. -/
  programs : ∀ (number : Nat) (program : Program α), pool.programs[number]? = some program →
    program.Keeps (protocol number)

/-- Programs that keep to their protocols are started as such. -/
theorem obeys_ofPrograms {world : World σ} {programs : List (Program α)}
    (store : invariant world.state) (times : ∀ number count, (protocol number).times (clock count))
    (keeps : ∀ (number : Nat) (program : Program α), programs[number]? = some program →
      program.Keeps (protocol number)) :
    (ofPrograms clock world programs).Obeys protocol invariant := by
  refine ⟨by rwa [ofPrograms_state], fun number program found => ?_⟩
  have less : number < programs.length := by
    have less := (List.getElem?_eq_some_iff.1 found).1
    rwa [ofPrograms_length] at less
  obtain ⟨begin, -, settled⟩ :=
    ofPrograms_programs clock world (List.getElem?_eq_getElem less)
  obtain rfl := Option.some.inj (found.symm.trans settled)
  exact (keeps number _ (List.getElem?_eq_getElem less)).settle (times number) begin

/-- An exchange of a pool that obeys is one of its protocol. -/
theorem Obeys.exchange (obeys : pool.Obeys protocol invariant) {number : Nat}
    {exchange : Exchange} (made : pool.exchange? repository number = some exchange) :
    (protocol number).calls exchange.request := by
  obtain ⟨kind, request, resume, found, rfl⟩ := call_of_exchange? made
  exact (obeys.programs number _ found).1

/-- A turn keeps the invariant of the store and the programs to their protocols. -/
theorem Obeys.turn (obeys : pool.Obeys protocol invariant)
    (serves : ∀ number, repository.Serves invariant (protocol number))
    (times : ∀ number count, (protocol number).times (clock count)) (number : Nat) :
    (pool.turn repository clock number).Obeys protocol invariant := by
  cases found : pool.programs[number]? with
  | none =>
    have same : pool.turn repository clock number = pool := by simp only [Pool.turn, found]
    rwa [same]
  | some program =>
    have keeps := obeys.programs number program found
    obtain ⟨world, moved⟩ := turn_eq repository clock found
    have advanced : invariant (program.advance repository clock pool.world).2.state ∧
        (program.advance repository clock pool.world).1.Keeps (protocol number) := by
      cases program with
      | call request resume =>
        obtain ⟨expected, kept⟩ := serves number request pool.world.state obeys.store keeps.1
        refine ⟨?_, (keeps.2 _ expected).settle (times number) _⟩
        rwa [Program.advance, Program.settle_state]
      | done | tell | now =>
        refine ⟨?_, keeps.settle (times number) _⟩
        show invariant (Program.settle clock _ pool.world).2.state
        rw [Program.settle_state]
        exact obeys.store
    refine ⟨world ▸ advanced.1, fun other program there => ?_⟩
    by_cases same : other = number
    · subst same
      obtain rfl := Option.some.inj (moved.symm.trans there)
      exact advanced.2
    · rw [turn_of_ne repository clock same] at there
      exact obeys.programs other program there

/-- A run keeps the invariant of the store and the programs to their protocols. -/
theorem Obeys.run (obeys : pool.Obeys protocol invariant)
    (serves : ∀ number, repository.Serves invariant (protocol number))
    (times : ∀ number count, (protocol number).times (clock count)) (schedule : List Nat) :
    (pool.run repository clock schedule).Obeys protocol invariant := by
  induction schedule generalizing pool with
  | nil => exact obeys
  | cons number rest ih => exact ih (obeys.turn serves times number)

end Pool

end HealthLedger.Store
