import HealthLedger.Proofs.Store.Transcript

/-!
# What a program tells

Whoever listens to a program knows the events that it tells beside its result. The program that
returns both (`Program.heard`) runs as the program does (`Program.run_heard`), so the calls and
answers in the transcript of a run are tied to the events of the same run
(`Program.heard_follows_transcript`). What a program in two parts tells is what the first part tells
and then what the second one does (`Program.Follows.of_heard_bind`).
-/

namespace HealthLedger.Store

variable {α β σ : Type} {exchanges : List Exchange} {told : List Log.Event}

namespace Program

/-- The program that also returns the events that it tells. -/
def heard : Program α → Program (α × List Log.Event)
  | .done result => .done (result, [])
  | .call request resume => .call request fun answer => (resume answer).heard
  | .tell event rest =>
    .tell event ((fun heard => (heard.1, event :: heard.2)) <$> rest.heard)
  | .now resume => .now fun time => (resume time).heard

/-- A program whose result is rendered runs as it does without. -/
theorem run_map (repository : Repository σ) (clock : Clock) (render : α → β) (program : Program α)
    (world : World σ) :
    (render <$> program).run repository clock world =
      (render (program.run repository clock world).1, (program.run repository clock world).2) :=
  run_bind repository clock program (fun result => .done (render result)) world

/-- A program that is listened to runs as it does when nobody listens, and its events are told
behind those that were told before. -/
theorem run_heard (repository : Repository σ) (clock : Clock) (program : Program α)
    (world : World σ) :
    ∃ told, program.heard.run repository clock world =
        (((program.run repository clock world).1, told),
          (program.run repository clock world).2) ∧
      (program.run repository clock world).2.events = world.events ++ told := by
  induction program generalizing world with
  | done result => exact ⟨[], rfl, (List.append_nil _).symm⟩
  | call request resume ih => exact ih _ _
  | tell event rest ih =>
    obtain ⟨told, same, grown⟩ := ih (world.told event)
    refine ⟨event :: told, ?_, ?_⟩
    · exact (run_map repository clock _ _ _).trans (by rw [same]; rfl)
    · exact grown.trans (List.append_assoc _ _ _)
  | now resume ih => exact ih _ _

/-- The events of a program that runs alone are those that it tells when it makes the calls of its
transcript and is given their answers. -/
theorem heard_follows_transcript (repository : Repository σ) (clock : Clock) (program : Program α)
    (world : World σ) :
    ∃ told, (program.run repository clock world).2.events = world.events ++ told ∧
      program.heard.Follows (program.transcript repository clock world)
        ((program.run repository clock world).1, told) := by
  obtain ⟨told, same, grown⟩ := run_heard repository clock program world
  obtain ⟨again, recorded, -⟩ := run_heard repository.recorded clock program
    { world with state := (world.state, []) }
  have follows := follows_transcript repository clock program.heard world
  rw [transcript, recorded, same] at follows
  exact ⟨told, grown, follows⟩

/-- A program that tells an event tells it before all others. -/
theorem Follows.of_heard_tell {event : Log.Event} {program : Program α} {outcome : α}
    (follows : (Program.tell event program).heard.Follows exchanges (outcome, told)) :
    ∃ rest, told = event :: rest ∧ program.heard.Follows exchanges (outcome, rest) := by
  obtain ⟨⟨result, rest⟩, same, goesOn⟩ := Follows.of_map follows
  obtain ⟨rfl, rfl⟩ := Prod.mk.inj same
  exact ⟨rest, rfl, goesOn⟩

/-- A program that has ended asks and tells nothing more. -/
theorem Follows.of_heard_done {result outcome : α}
    (follows : (Program.done result).heard.Follows exchanges (outcome, told)) :
    exchanges = [] ∧ told = [] ∧ outcome = result := by
  obtain ⟨none, same⟩ := follows
  obtain ⟨rfl, rfl⟩ := Prod.mk.inj same
  exact ⟨none, rfl, rfl⟩

/-- Listening to a program in two parts is listening to one part after the other. -/
theorem heard_bind (program : Program α) (next : α → Program β) :
    (program >>= next).heard = program.heard >>= fun first =>
      (fun second => (second.1, first.2 ++ second.2)) <$> (next first.1).heard := by
  induction program with
  | done result => exact (id_map _).symm
  | call request resume ih => exact congrArg (Program.call request) (funext ih)
  | tell event rest ih =>
    show Program.tell event (_ <$> (rest >>= next).heard) =
      Program.tell event ((_ <$> rest.heard) >>= _)
    rw [ih, map_bind, bind_map_left]
    simp only [Functor.map_map, List.cons_append]
  | now resume ih => exact congrArg Program.now (funext ih)

/-- A program in two parts tells what the first part tells and then what the second part does. -/
theorem Follows.of_heard_bind {program : Program α} {next : α → Program β} {outcome : β}
    (follows : (program >>= next).heard.Follows exchanges (outcome, told)) :
    ∃ first second middle before after, exchanges = first ++ second ∧ told = before ++ after ∧
      program.heard.Follows first (middle, before) ∧
        (next middle).heard.Follows second (outcome, after) := by
  rw [heard_bind] at follows
  obtain ⟨first, second, ⟨middle, before⟩, rfl, begins, ends⟩ := Follows.of_bind follows
  obtain ⟨⟨result, after⟩, same, later⟩ := Follows.of_map ends
  obtain ⟨rfl, rfl⟩ := Prod.mk.inj same
  exact ⟨first, second, middle, before, after, rfl, rfl, begins, later⟩

/-- A program whose result is rendered tells the same events. -/
theorem Follows.of_heard_map {program : Program α} {render : α → β} {outcome : β}
    (follows : (render <$> program).heard.Follows exchanges (outcome, told)) :
    ∃ result, outcome = render result ∧ program.heard.Follows exchanges (result, told) := by
  obtain ⟨first, second, result, before, after, rfl, rfl, begins, ends⟩ :=
    Follows.of_heard_bind follows
  obtain ⟨rfl, rfl, rfl⟩ := Follows.of_heard_done ends
  exact ⟨result, rfl, by rwa [List.append_nil, List.append_nil]⟩

end Program

end HealthLedger.Store
