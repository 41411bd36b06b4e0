import HealthLedger.Proofs.Http.Sequel

/-!
# Conversations of operations

What a client and a server say to each other in an operation on states and jobs is decided by the
operation and by the responses, whatever the server is (`Operation.converses`). The client gets the
object that the operation addresses. Then it posts the state of a reader if nothing was found, puts
what a writer makes of the document that it was shown, and gets the object of a reader of details
once more if it is sure that there is one. Nothing else is sent, so nothing is sent again, and the
last response decides what the operation comes to.
-/

namespace HealthLedger.State

open Document (Resource)
open Store (Error Exchange Clock World)
open Http (Client Network Round Method)

namespace Operation

/-- What a client and a server say to each other in an operation, in a first round and the rest,
and what the operation comes to. -/
structure Conversation (client : Client) (operation : Operation) (first : Round)
    (rest : List Round) (outcome : Outcome) : Prop where
  /-- The first request gets what the operation addresses. -/
  begins : client.request? operation.gets = some first.request
  /-- What follows is nothing or a post, a get, a post and a get, or a put. -/
  methods : rest.map (·.request.method) ∈ Sequel.methods
  /-- Something is posted by a reader if the first response says that nothing is there. -/
  posts_iff : (∃ round ∈ rest, round.request.method = .post) ↔
    operation.consultation?.isSome ∧ first.Has 404
  /-- Something is put by a writer if the first response shows a document. -/
  puts_iff : (∃ round ∈ rest, round.request.method = .put) ↔
    operation.revision?.isSome ∧ first.Shows operation.key.kind
  /-- Something is got once more by a reader of details if the first response shows a state, or the
  response to a post shows one or says that there is one already. -/
  gets_iff : (∃ round ∈ rest, round.request.method = .get) ↔
    operation.ReadsDetails ∧ (first.Shows operation.key.kind ∨ ∃ round ∈ rest,
      round.request.method = .post ∧ (round.Shows operation.key.kind ∨ round.Has 409))
  /-- The empty state of the reader is posted. -/
  posts : ∀ round ∈ rest, round.request.method = .post →
    ∃ consultation, operation.consultation? = some consultation ∧
      client.request? (.create consultation.state consultation.space) = some round.request
  /-- What the writer makes of the document of the first response is put. -/
  puts : ∀ round ∈ rest, round.request.method = .put →
    ∃ (revision : Revision) (document : Resource revision.key.kind) (now : Time.Instant),
      operation.revision? = some revision ∧ first.ShowsDocument document ∧
        client.request? (.update (revision.revise now document) revision.key.space) =
          some round.request
  /-- What was got first is got once more. -/
  gets : ∀ round ∈ rest, round.request.method = .get → round.request = first.request
  /-- The operation succeeds if the last response shows a document, or if it is only to make sure
  that a state exists and the response to a post says that there is one already. -/
  succeeds : outcome.error? = none ↔ (rest.getLastD first).Shows operation.key.kind ∨
    operation.OnlyEnsures ∧ ∃ round ∈ rest, round.request.method = .post ∧ round.Has 409
  /-- Otherwise the failure of the last response is told, which is that of the fetch if something
  was got once more. -/
  fails : ∀ {error : Error}, outcome.error? = some error →
    (rest.getLastD first).Fails operation.key.kind error.reason ∧
      outcome = operation.failure
        (if rest = [] ∨ (rest.getLastD first).request.method = .post then .existence else .fetch)
        error
  /-- The failure names the object, by the name in the document that was put if it was put. -/
  names : ∀ {error : Error}, outcome.error? = some error → error.key = operation.key ∨
    ∃ (revision : Revision) (document : Resource revision.key.kind),
      (rest.getLastD first).request.method = .put ∧ operation.revision? = some revision ∧
        first.ShowsDocument document ∧ error.key = document.keyIn revision.key.space

section Rounds

variable {client : Client} {operation : Operation} {exchange : Exchange} {round : Round}

/-- A call of an operation succeeds if and only if the response shows a document of the kind that
the operation addresses. -/
theorem Owns.shows_iff (own : operation.Owns exchange) (relays : client.Relays exchange round) :
    round.Shows operation.key.kind ↔ exchange.error? = none := by
  obtain ⟨call, answer, rfl, -⟩ := own
  exact relays.shows_iff

/-- A call of an operation fails for the reason for which the response shows no document. -/
theorem Owns.fails_of_error (own : operation.Owns exchange)
    (relays : client.Relays exchange round) {error : Error}
    (failed : exchange.error? = some error) :
    round.Fails operation.key.kind error.reason ∧ error.key = exchange.request.key := by
  obtain ⟨call, answer, rfl, -⟩ := own
  exact relays.fails_of_error failed

/-- Some round is as some exchange if each of them is as its own. -/
theorem exists_round_iff {pairs : List (Exchange × Round)} {ofRound : Round → Prop}
    {ofExchange : Exchange → Prop}
    (same : ∀ exchange round, (exchange, round) ∈ pairs → (ofRound round ↔ ofExchange exchange)) :
    (∃ round ∈ pairs.map (·.2), ofRound round) ↔
      ∃ exchange ∈ pairs.map (·.1), ofExchange exchange := by
  constructor
  · rintro ⟨round, there, holds⟩
    obtain ⟨pair, inside, rfl⟩ := List.mem_map.1 there
    exact ⟨pair.1, List.mem_map_of_mem inside, (same _ _ inside).1 holds⟩
  · rintro ⟨exchange, there, holds⟩
    obtain ⟨pair, inside, rfl⟩ := List.mem_map.1 there
    exact ⟨pair.2, List.mem_map_of_mem inside, (same _ _ inside).2 holds⟩

/-- A course of an operation with the rounds of its calls. -/
structure Dialogue (client : Client) (operation : Operation) (first : Exchange × Round)
    (rest : List (Exchange × Round)) (outcome : Outcome) : Prop where
  /-- The calls are those of a course. -/
  course : operation.Course (first.1 :: rest.map (·.1)) outcome
  /-- The first call gets what the operation addresses. -/
  gets : ∃ answer, first.1 = .alone operation.gets answer
  /-- The others follow from what it was answered. -/
  sequel : operation.Sequel first.1 (rest.map (·.1))
  /-- Every round is that of its call. -/
  relays : ∀ exchange round, (exchange, round) ∈ first :: rest → client.Relays exchange round

namespace Dialogue

variable {first : Exchange × Round} {rest : List (Exchange × Round)} {outcome : Outcome}

/-- The first round is that of the first call. -/
theorem relaysFirst (dialogue : operation.Dialogue client first rest outcome) :
    client.Relays first.1 first.2 :=
  dialogue.relays _ _ List.mem_cons_self

/-- The other rounds are those of the other calls. -/
theorem relaysRest (dialogue : operation.Dialogue client first rest outcome)
    (there : (exchange, round) ∈ rest) : client.Relays exchange round :=
  dialogue.relays _ _ (List.mem_cons_of_mem _ there)

/-- The first call is one of the operation. -/
theorem ownsFirst (dialogue : operation.Dialogue client first rest outcome) :
    operation.Owns first.1 :=
  dialogue.course.owns _ List.mem_cons_self

/-- The other calls are among those of the course. -/
theorem asked (there : (exchange, round) ∈ rest) : exchange ∈ first.1 :: rest.map (·.1) :=
  List.mem_cons_of_mem _ (List.mem_map.2 ⟨_, there, rfl⟩)

/-- Something is sent with a method if there is a call of this method. -/
theorem sends_iff (dialogue : operation.Dialogue client first rest outcome) (method : Method) :
    (∃ round ∈ rest.map (·.2), round.request.method = method) ↔
      ∃ exchange ∈ rest.map (·.1), Client.method exchange.request = method :=
  exists_round_iff fun _ _ there => by rw [(dialogue.relaysRest there).method_eq]

/-- A state is posted that shows that there is one if it is created or was created by someone
else. -/
theorem there_iff (dialogue : operation.Dialogue client first rest outcome) :
    (∃ round ∈ rest.map (·.2), round.request.method = .post ∧
        (round.Shows operation.key.kind ∨ round.Has 409)) ↔
      ∃ created ∈ rest.map (·.1), Client.method created.request = .post ∧
        (created.error? = none ∨ created.FindsTaken) := by
  refine exists_round_iff fun exchange round there => ?_
  have relays := dialogue.relaysRest there
  have own : operation.Owns exchange := dialogue.course.owns _ (asked there)
  rw [relays.method_eq, own.shows_iff relays]
  exact and_congr_right fun posts => or_congr_right (relays.taken_iff posts)

/-- What is posted. -/
theorem posts (dialogue : operation.Dialogue client first rest outcome)
    (there : (exchange, round) ∈ rest) (posts : round.request.method = .post) :
    ∃ consultation, operation.consultation? = some consultation ∧
      client.request? (.create consultation.state consultation.space) = some round.request := by
  have relays := dialogue.relaysRest there
  obtain ⟨consultation, answer, reads, rfl⟩ :=
    dialogue.course.created_of_mem (asked there) (relays.method_eq.symm.trans posts)
  exact ⟨consultation, reads, relays.formed⟩

/-- What is put. -/
theorem puts (dialogue : operation.Dialogue client first rest outcome)
    (there : (exchange, round) ∈ rest) (puts : round.request.method = .put) :
    ∃ (revision : Revision) (document : Resource revision.key.kind) (now : Time.Instant),
      operation.revision? = some revision ∧ first.2.ShowsDocument document ∧
        client.request? (.update (revision.revise now document) revision.key.space) =
          some round.request := by
  have relays := dialogue.relaysRest there
  obtain ⟨revision, document, now, answer, writes, begins, rfl⟩ :=
    dialogue.course.updated_of_mem (asked there) (relays.method_eq.symm.trans puts)
  have relaysFirst := dialogue.relaysFirst
  rw [begins] at relaysFirst
  exact ⟨revision, document, now, writes, relaysFirst.shows_of_ok rfl, relays.formed⟩

/-- What is got once more is what was got first. -/
theorem getsAgain (dialogue : operation.Dialogue client first rest outcome)
    (there : (exchange, round) ∈ rest) (gets : round.request.method = .get) :
    round.request = first.2.request := by
  have relays := dialogue.relaysRest there
  have relaysFirst := dialogue.relaysFirst
  have method := relays.method_eq.symm.trans gets
  obtain ⟨call, again, rfl, own⟩ := dialogue.course.owns _ (asked there)
  obtain rfl := own method
  obtain ⟨answer, begins⟩ := dialogue.gets
  rw [begins] at relaysFirst
  exact Option.some.inj (relays.formed.symm.trans relaysFirst.formed)

/-- The last round is that of the last call. -/
theorem relaysLast (dialogue : operation.Dialogue client first rest outcome) :
    client.Relays (rest.getLastD first).1 (rest.getLastD first).2 :=
  dialogue.relays _ _ List.getLastD_mem_cons

/-- The last call is among those of the course. -/
theorem last_asked (first : Exchange × Round) (rest : List (Exchange × Round)) :
    (rest.getLastD first).1 ∈ first.1 :: rest.map (·.1) :=
  List.mem_map.2 ⟨_, List.getLastD_mem_cons, rfl⟩

/-- The last call decides what the operation comes to. -/
theorem ends (dialogue : operation.Dialogue client first rest outcome) :
    (outcome.error? = none ↔ (rest.getLastD first).1.error? = none ∨
      operation.OnlyEnsures ∧ (rest.getLastD first).1.FindsTaken) ∧
    ∀ {error : Error}, outcome.error? = some error →
      (rest.getLastD first).1.error? = some error ∧
        outcome = operation.failure
          (if rest = [] ∨ (rest.getLastD first).2.request.method = .post then .existence
            else .fetch) error := by
  obtain ⟨before, last, same, succeeds, fails⟩ := dialogue.course.ends
  have ends : (rest.getLastD first).1 = last := by
    have ends := congrArg (·.getLastD first.1) same
    simpa only [List.getLastD_cons, List.getLastD_concat, List.getLastD_map] using ends
  have alone : before.isEmpty ↔ rest = [] := by
    have length := congrArg List.length same
    simp only [List.length_cons, List.length_map, List.length_append, List.length_nil] at length
    rw [List.isEmpty_iff_length_eq_zero, ← List.length_eq_zero_iff]
    omega
  have posts : last.request.isCreate ↔ (rest.getLastD first).2.request.method = .post := by
    rw [dialogue.relaysLast.method_eq, ends]
    exact Client.isCreate_iff
  subst ends
  have step : lastStep before (rest.getLastD first).1 =
      if rest = [] ∨ (rest.getLastD first).2.request.method = .post then .existence
      else .fetch := by
    simp only [lastStep, Bool.or_eq_true, alone, posts]
  exact ⟨succeeds, fun told => step ▸ fails told⟩

/-- The last response shows a document, or finds a state created by someone else when this is all
that was to be made sure of, if the operation succeeds. -/
theorem succeeds (dialogue : operation.Dialogue client first rest outcome) :
    outcome.error? = none ↔ (rest.getLastD first).2.Shows operation.key.kind ∨
      operation.OnlyEnsures ∧
        ∃ round ∈ rest.map (·.2), round.request.method = .post ∧ round.Has 409 := by
  have own := dialogue.course.owns _ (last_asked first rest)
  rw [dialogue.ends.1, own.shows_iff dialogue.relaysLast]
  refine or_congr_right (and_congr_right fun only => ?_)
  obtain ⟨answer, begins⟩ := dialogue.gets
  have taken := dialogue.sequel.taken_iff (begins ▸ rfl) only
  rw [List.getLastD_map] at taken
  refine taken.trans (exists_round_iff fun exchange round there => ?_).symm
  have relays := dialogue.relaysRest there
  rw [relays.method_eq]
  exact and_congr_right relays.taken_iff

/-- The failure of the last response is told. -/
theorem fails (dialogue : operation.Dialogue client first rest outcome) {error : Error}
    (told : outcome.error? = some error) :
    (rest.getLastD first).2.Fails operation.key.kind error.reason ∧
      error.key = (rest.getLastD first).1.request.key := by
  have own := dialogue.course.owns _ (last_asked first rest)
  exact own.fails_of_error dialogue.relaysLast (dialogue.ends.2 told).1

/-- The failure names the object, by the name in the document that was put if it was put. -/
theorem names (dialogue : operation.Dialogue client first rest outcome) {error : Error}
    (told : outcome.error? = some error) :
    error.key = operation.key ∨
      ∃ (revision : Revision) (document : Resource revision.key.kind),
        (rest.getLastD first).2.request.method = .put ∧ operation.revision? = some revision ∧
          first.2.ShowsDocument document ∧
            error.key = document.keyIn revision.key.space := by
  rw [(dialogue.fails told).2, dialogue.relaysLast.method_eq]
  refine (dialogue.course.key_of_mem (last_asked first rest)).imp_right ?_
  rintro ⟨revision, document, puts, writes, begins, key⟩
  have relaysFirst := dialogue.relaysFirst
  rw [begins] at relaysFirst
  exact ⟨revision, document, puts, writes, relaysFirst.shows_of_ok rfl, key⟩

/-- The rounds of a dialogue are a conversation. -/
theorem conversation (dialogue : operation.Dialogue client first rest outcome) :
    operation.Conversation client first.2 (rest.map (·.2)) outcome where
  begins := by
    obtain ⟨answer, begins⟩ := dialogue.gets
    have relaysFirst := dialogue.relaysFirst
    rw [begins] at relaysFirst
    exact relaysFirst.formed
  methods := by
    have same : rest.map (·.2.request.method) = rest.map (Client.method ·.1.request) :=
      List.map_congr_left fun _ there => (dialogue.relaysRest there).method_eq
    simpa only [List.map_map, Function.comp_def, same] using dialogue.sequel.methods_eq
  posts_iff := by
    rw [dialogue.sends_iff, dialogue.sequel.posts_iff, dialogue.relaysFirst.missing_iff]
  puts_iff := by
    rw [dialogue.sends_iff, dialogue.sequel.puts_iff,
      dialogue.ownsFirst.shows_iff dialogue.relaysFirst]
  gets_iff := by
    rw [dialogue.sends_iff, dialogue.sequel.gets_iff, dialogue.there_iff,
      dialogue.ownsFirst.shows_iff dialogue.relaysFirst]
  posts := by
    intro round there posts
    obtain ⟨pair, inside, rfl⟩ := List.mem_map.1 there
    exact dialogue.posts inside posts
  puts := by
    intro round there puts
    obtain ⟨pair, inside, rfl⟩ := List.mem_map.1 there
    exact dialogue.puts inside puts
  gets := by
    intro round there gets
    obtain ⟨pair, inside, rfl⟩ := List.mem_map.1 there
    exact dialogue.getsAgain inside gets
  succeeds := by
    rw [List.getLastD_map]
    exact dialogue.succeeds
  fails := by
    intro error told
    simp only [List.getLastD_map, List.map_eq_nil_iff]
    exact ⟨(dialogue.fails told).1, (dialogue.ends.2 told).2⟩
  names := by
    intro error told
    rw [List.getLastD_map]
    exact dialogue.names told

end Dialogue

/-- A course with the rounds of its calls is a dialogue. -/
theorem Course.dialogue {pairs : List (Exchange × Round)} {outcome : Outcome}
    (course : operation.Course (pairs.map (·.1)) outcome)
    (relays : ∀ pair ∈ pairs, client.Relays pair.1 pair.2) :
    ∃ first rest, pairs = first :: rest ∧ operation.Dialogue client first rest outcome := by
  obtain ⟨answer, calls, cut, sequel⟩ := course.sequel
  cases pairs with
  | nil => contradiction
  | cons first rest =>
    obtain ⟨begins, rfl⟩ := List.cons.inj cut
    have begins : first.1 = .alone operation.gets answer := begins
    exact ⟨first, rest, rfl, course, ⟨answer, begins⟩, begins ▸ sequel,
      fun exchange round there => relays _ there⟩

end Rounds

/-- Whatever the server answers, an operation on states and jobs whose requests can be formed is a
conversation with it. -/
theorem converses {σ : Type} (client : Client) (network : Network σ) (clock : Clock)
    (world : World (σ × List Round)) {operation : Operation} (onStates : operation.OnStates)
    (formed : ∀ exchange ∈ operation.program.transcript (client.repository network.logged) clock
      world, (client.request? exchange.request).isSome) :
    ∃ first rest,
      (operation.program.run (client.repository network.logged) clock world).2.state.2 =
        world.state.2 ++ first :: rest ∧
      operation.Conversation client first rest
        (operation.program.run (client.repository network.logged) clock world).1 := by
  have course := course (client.repository network.logged) clock world onStates
  have leads := Store.Program.leads_transcript (client.repository network.logged) clock
    operation.program world
  obtain ⟨pairs, same, logged, relays⟩ := Client.relays_of_leads leads
  rw [← List.filter_eq_self.2 formed, same] at course
  obtain ⟨first, rest, rfl, dialogue⟩ := course.dialogue relays
  exact ⟨first.2, _, logged, dialogue.conversation⟩

/-- A server with no state at first, which someone else creates in the meantime, and which is cut
off when it shows this state. -/
def contested : List (Option Http.Response) :=
  [some { status := 404, body := [] }, some { status := 409, body := [] },
   some { status := 200, body := Text.Utf8.encode "\x7b", complete := false }]

/-- The details of the state are asked for by a get, a post and a get. -/
theorem contested_read_converses :
    let client := Client.ofConfig {}
    let repository := client.repository (Network.scripted contested).logged
    let world : World (List Http.Request × List Round) := { state := ([], []) }
    let operation := read "Ping" "kube" .check
    operation.OnStates ∧
      (∀ exchange ∈ operation.program.transcript repository (fun _ => default) world,
        (client.request? exchange.request).isSome) ∧
      ∃ first rest,
        (operation.program.run repository (fun _ => default) world).2.state.2 = first :: rest ∧
          rest.map (·.request.method) = [.post, .get] ∧
          operation.Conversation client first rest
            (operation.program.run repository (fun _ => default) world).1 := by
  have onStates : (read "Ping" "kube" .check).OnStates := trivial
  have formed : ∀ exchange ∈ (read "Ping" "kube" .check).program.transcript
      ((Client.ofConfig {}).repository (Network.scripted contested).logged) (fun _ => default)
      { state := ([], []) }, ((Client.ofConfig {}).request? exchange.request).isSome := by
    decide +kernel
  refine ⟨onStates, formed, ?_⟩
  obtain ⟨first, rest, logged, conversation⟩ := converses (Client.ofConfig {})
    (Network.scripted contested) (fun _ => default) { state := ([], []) } onStates formed
  refine ⟨first, rest, logged, ?_, conversation⟩
  have methods : ((read "Ping" "kube" .check).program.run
      ((Client.ofConfig {}).repository (Network.scripted contested).logged) (fun _ => default)
      { state := ([], []) }).2.state.2.map (·.request.method) = [.get, .post, .get] := by
    decide +kernel
  rw [logged] at methods
  exact (List.cons.inj methods).2

end Operation

end HealthLedger.State
