import HealthLedger.Proofs.Store.Turns

/-!
# What a program asks and is answered

The transcript of a program that runs alone lists its calls with their answers, as a store that
keeps a record does. Two things are known of it, whatever the store is. Its calls are those that
the program makes when it is given its answers, and lead to the result
(`Program.follows_transcript`), and its answers are those that the store gives to its calls one
after the other (`Program.leads_transcript`). So what a program may ask is known from the program,
and what becomes of the store from the transcript. A program that takes turns with others has
asked what it would ask alone if it were answered so (`Pool.run_follows`).
-/

namespace HealthLedger.Store

open Document (Kind)

variable {α β σ : Type} {repository : Repository σ} {clock : Clock}

/-- A call of a client that is alone, with its answer. -/
def Exchange.alone {kind : Kind} (request : Call kind) (answer : Answer kind) : Exchange :=
  ⟨0, kind, request, answer⟩

/-- The store that keeps a record of its calls and answers. -/
def Repository.recorded (repository : Repository σ) : Repository (σ × List Exchange) where
  perform call held :=
    let (answer, state) := repository.perform call held.1
    (answer, state, held.2 ++ [.alone call answer])

/-- The store gives the answers of the exchanges to their calls one after the other, which leads it
from one state to another. -/
def Repository.Leads (repository : Repository σ) : σ → List Exchange → σ → Prop
  | state, [], after => after = state
  | state, ⟨_, _, request, answer⟩ :: rest, after =>
    (repository.perform request state).1 = answer ∧
      repository.Leads (repository.perform request state).2 rest after

namespace Repository.Leads

variable {state middle after : σ} {first second exchanges : List Exchange}

/-- Exchanges in two parts lead somewhere first. -/
theorem append_iff :
    repository.Leads state (first ++ second) after ↔
      ∃ middle, repository.Leads state first middle ∧ repository.Leads middle second after := by
  induction first generalizing state with
  | nil => simp [Leads]
  | cons exchange rest ih => simp [Leads, ih, and_assoc]

/-- What every exchange of a list keeps is kept by all of them. -/
theorem keeps {β : Type} (view : σ → β) (leads : repository.Leads state exchanges after)
    (kept : ∀ exchange ∈ exchanges, ∀ state : σ,
      (repository.perform exchange.request state).1 = exchange.answer →
        view (repository.perform exchange.request state).2 = view state) :
    view after = view state := by
  induction exchanges generalizing state with
  | nil => exact congrArg view leads
  | cons exchange rest ih =>
    obtain ⟨answered, leads⟩ := leads
    obtain ⟨first, others⟩ := List.forall_mem_cons.1 kept
    exact (ih leads others).trans (first state answered)

end Repository.Leads

namespace Program

/-- The program makes the calls of the exchanges when it is given their answers, and comes to a
result. -/
def Follows : Program α → List Exchange → α → Prop
  | .done result, exchanges, outcome => exchanges = [] ∧ outcome = result
  | .call request resume, exchanges, outcome =>
    ∃ answer rest, exchanges = .alone request answer :: rest ∧ (resume answer).Follows rest outcome
  | .tell _ program, exchanges, outcome => program.Follows exchanges outcome
  | .now resume, exchanges, outcome => ∃ time, (resume time).Follows exchanges outcome

/-- A program in two parts makes the calls of the first part and then those of the second. -/
theorem Follows.of_bind {program : Program α} {next : α → Program β} {exchanges : List Exchange}
    {outcome : β} (follows : (program.bind next).Follows exchanges outcome) :
    ∃ first second middle, exchanges = first ++ second ∧ program.Follows first middle ∧
      (next middle).Follows second outcome := by
  induction program generalizing exchanges with
  | done result => exact ⟨[], exchanges, result, rfl, ⟨rfl, rfl⟩, follows⟩
  | call request resume ih =>
    obtain ⟨answer, rest, rfl, follows⟩ := follows
    obtain ⟨first, second, middle, rfl, begins, ends⟩ := ih answer follows
    exact ⟨_ :: first, second, middle, rfl, ⟨answer, first, rfl, begins⟩, ends⟩
  | tell event program ih => exact ih follows
  | now resume ih =>
    obtain ⟨time, follows⟩ := follows
    obtain ⟨first, second, middle, rfl, begins, ends⟩ := ih time follows
    exact ⟨first, second, middle, rfl, ⟨time, begins⟩, ends⟩

/-- A program whose result is rendered makes the same calls. -/
theorem Follows.of_map {program : Program α} {render : α → β} {exchanges : List Exchange}
    {outcome : β} (follows : (render <$> program).Follows exchanges outcome) :
    ∃ result, outcome = render result ∧ program.Follows exchanges result := by
  obtain ⟨first, second, result, rfl, begins, rfl, rfl⟩ := Follows.of_bind follows
  exact ⟨result, rfl, by rwa [List.append_nil]⟩

/-- A program that runs on a store with a record runs as it does without, and the record has grown
by exchanges that the program follows and the store gives the answers of. -/
theorem run_recorded (repository : Repository σ) (clock : Clock) (program : Program α)
    (world : World (σ × List Exchange)) :
    ∃ exchanges, program.Follows exchanges
        (program.run repository clock { world with state := world.state.1 }).1 ∧
      repository.Leads world.state.1 exchanges
        (program.run repository clock { world with state := world.state.1 }).2.state ∧
      (program.run repository.recorded clock world).2.state =
        ((program.run repository clock { world with state := world.state.1 }).2.state,
          world.state.2 ++ exchanges) := by
  induction program generalizing world with
  | done result => exact ⟨[], ⟨rfl, rfl⟩, rfl, by simp [run]⟩
  | call request resume ih =>
    obtain ⟨exchanges, follows, leads, same⟩ :=
      ih (repository.perform request world.state.1).1
        { world with state := (repository.recorded.perform request world.state).2 }
    refine ⟨_ :: exchanges, ⟨_, exchanges, rfl, follows⟩, ⟨rfl, leads⟩, same.trans ?_⟩
    exact congrArg (Prod.mk _) (List.append_assoc _ _ _)
  | tell event program ih => exact ih (world.told event)
  | now resume ih =>
    obtain ⟨exchanges, follows, rest⟩ := ih (clock world.ticks) world.ticked
    exact ⟨exchanges, ⟨_, follows⟩, rest⟩

/-- The exchanges of a program that runs alone: the record of the store, which is empty at
first. -/
def transcript (repository : Repository σ) (clock : Clock) (program : Program α)
    (world : World σ) : List Exchange :=
  (program.run repository.recorded clock { world with state := (world.state, []) }).2.state.2

/-- A program follows its transcript to its result. -/
theorem follows_transcript (repository : Repository σ) (clock : Clock) (program : Program α)
    (world : World σ) :
    program.Follows (program.transcript repository clock world)
      (program.run repository clock world).1 := by
  obtain ⟨exchanges, follows, -, same⟩ :=
    run_recorded repository clock program { world with state := (world.state, []) }
  rwa [transcript, same]

/-- The transcript of a program leads the store to where the program leaves it. -/
theorem leads_transcript (repository : Repository σ) (clock : Clock) (program : Program α)
    (world : World σ) :
    repository.Leads world.state (program.transcript repository clock world)
      (program.run repository clock world).2.state := by
  obtain ⟨exchanges, -, leads, same⟩ :=
    run_recorded repository clock program { world with state := (world.state, []) }
  rwa [transcript, same]

end Program

/-- What follows the next call or the end of a program follows the program. -/
theorem Program.Follows.of_settle {program : Program α} {world : World σ}
    {exchanges : List Exchange} {outcome : α}
    (follows : (program.settle clock world).1.Follows exchanges outcome) :
    program.Follows exchanges outcome := by
  induction program generalizing world with
  | done result => exact follows
  | call request resume ih => exact follows
  | tell event program ih => exact ih follows
  | now resume ih => exact ⟨_, ih _ follows⟩

/-- The exchanges of one client, as if it were alone. -/
def exchangesOf (client : Nat) (exchanges : List Exchange) : List Exchange :=
  (exchanges.filter (·.client = client)).map fun exchange => .alone exchange.request exchange.answer

/-- The exchanges of a client are those that bear its number. -/
theorem mem_exchangesOf {client : Nat} {exchanges : List Exchange} {kind : Kind}
    {request : Call kind} {answer : Answer kind} :
    .alone request answer ∈ exchangesOf client exchanges ↔
      ⟨client, kind, request, answer⟩ ∈ exchanges := by
  simp only [exchangesOf, List.mem_map, List.mem_filter, decide_eq_true_eq]
  constructor
  · rintro ⟨exchange, ⟨there, rfl⟩, same⟩
    cases same
    exact there
  · exact fun there => ⟨_, ⟨there, rfl⟩, rfl⟩

/-- The exchanges of one client in two parts. -/
theorem exchangesOf_append (client : Nat) (first second : List Exchange) :
    exchangesOf client (first ++ second) =
      exchangesOf client first ++ exchangesOf client second := by
  simp [exchangesOf]

namespace Pool

variable {pool : Pool α σ} {number : Nat} {program : Program α}

/-- The exchange of a turn belongs to the program whose turn it is. -/
theorem exchange?_client {exchange : Exchange}
    (made : pool.exchange? repository number = some exchange) : exchange.client = number := by
  obtain ⟨kind, request, resume, -, rfl⟩ := call_of_exchange? made
  rfl

/-- The answer in the exchange of a turn is that of the store. -/
theorem exchange?_answer {exchange : Exchange}
    (made : pool.exchange? repository number = some exchange) :
    (repository.perform exchange.request pool.world.state).1 = exchange.answer := by
  obtain ⟨kind, request, resume, -, rfl⟩ := call_of_exchange? made
  rfl

/-- A turn of a program takes it on by its exchange, if there is one. -/
theorem turn_follows (repository : Repository σ) (clock : Clock)
    (waits : pool.programs[number]? = some program) :
    ∃ next, (pool.turn repository clock number).programs[number]? = some next ∧
      ∀ rest outcome, next.Follows rest outcome →
        program.Follows (exchangesOf number (pool.exchange? repository number).toList ++ rest)
          outcome := by
  refine ⟨_, (turn_eq repository clock waits).2, fun rest outcome follows => ?_⟩
  cases program with
  | call request resume =>
    rw [exchange?_of_call waits]
    have own : exchangesOf number [⟨number, _, request,
        (repository.perform request pool.world.state).1⟩] =
        [.alone request (repository.perform request pool.world.state).1] := by
      simp [exchangesOf]
    rw [Option.toList_some, own]
    exact ⟨_, _, rfl, follows.of_settle⟩
  | done | tell | now =>
    have silent : pool.exchange? repository number = none := by
      unfold exchange?
      rw [waits]
    rw [silent]
    exact follows.of_settle

/-- A turn of another program is not among the exchanges. -/
theorem exchangesOf_turn_of_ne (repository : Repository σ) {other : Nat}
    (different : number ≠ other) :
    exchangesOf number (pool.exchange? repository other).toList = [] := by
  cases made : pool.exchange? repository other with
  | none => rfl
  | some exchange =>
    have client := exchange?_client made
    simp [exchangesOf, client, different.symm]

/-- A run takes a program on by the exchanges that it has had in the run. -/
theorem run_follows (repository : Repository σ) (clock : Clock)
    (waits : pool.programs[number]? = some program) (schedule : List Nat) :
    ∃ next, (pool.run repository clock schedule).programs[number]? = some next ∧
      ∀ rest outcome, next.Follows rest outcome →
        program.Follows (exchangesOf number (pool.exchanges repository clock schedule) ++ rest)
          outcome := by
  induction schedule generalizing pool program with
  | nil => exact ⟨program, waits, fun rest outcome follows => follows⟩
  | cons first others ih =>
    rw [exchanges, exchangesOf_append]
    by_cases same : number = first
    · subst same
      obtain ⟨middle, moved, first⟩ := turn_follows repository clock waits
      obtain ⟨next, there, later⟩ := ih moved
      refine ⟨next, there, fun rest outcome follows => ?_⟩
      rw [List.append_assoc]
      exact first _ _ (later rest outcome follows)
    · rw [exchangesOf_turn_of_ne repository same]
      exact ih ((turn_of_ne repository clock same).trans waits)

end Pool

end HealthLedger.Store
