import HealthLedger.Http.Client
import HealthLedger.Proofs.Results
import HealthLedger.Proofs.Store.Transcript

/-!
# Rounds

A round is a request with the response to it, if there was one. A store behind an API turns each of
its calls into a round, if it can form the request, and takes its answer from the response alone
(`Client.relays_of_leads`). A response either shows a document (`Round.Shows`) or fails for a reason
that its status and its body decide together with the method of the request (`Round.Fails`), and
the answer to the call says which (`Client.Relays.shown_or_failed`).
-/

namespace HealthLedger.Http

open Document (Kind Resource)
open Store (Call Answer Reason Exchange Error)

/-- A request with the response to it, if there was one. -/
structure Round where
  /-- The request. -/
  request : Request
  /-- The response, unless the connection was refused or ended too early. -/
  response : Option Response

/-- The network that keeps a log of its rounds. -/
def Network.logged {σ : Type} (network : Network σ) : Network (σ × List Round) where
  exchange request held :=
    let (response, state) := network.exchange request held.1
    (response, state, held.2 ++ [⟨request, response⟩])

namespace Round

/-- The response has a status. -/
def Has (status : Nat) (round : Round) : Prop :=
  ∃ response, round.response = some response ∧ response.status = status

/-- The response succeeds with a body that is decoded as the document. -/
def ShowsDocument {kind : Kind} (round : Round) (document : Resource kind) : Prop :=
  ∃ response bytes, round.response = some response ∧ response.isSuccess = true ∧
    response.content? = some bytes ∧ (Resource.decoder kind).decodeText bytes = .ok document

/-- The response succeeds with a body that is decoded as a document of a kind. -/
def Shows (kind : Kind) (round : Round) : Prop :=
  ∃ document : Resource kind, round.ShowsDocument document

/-- The response shows no document of a kind, for a reason. -/
inductive Fails (kind : Kind) (round : Round) : Reason → Prop
  /-- There is no response. -/
  | unanswered (none : round.response = none) : Fails kind round (.transport "there is no response")
  /-- The status says that nothing is there. -/
  | missing (has : round.Has 404) : Fails kind round .notFound
  /-- The status speaks of a conflict, and something was to be added. -/
  | taken (has : round.Has 409) (posted : round.request.method = .post) :
    Fails kind round .alreadyExists
  /-- The status speaks of a conflict, and nothing was to be added. -/
  | conflicting (has : round.Has 409) (other : round.request.method ≠ .post) :
    Fails kind round .conflict
  /-- Another status says that the request has failed, and the body says why. -/
  | refused {response : Response} (there : round.response = some response)
    (failed : response.isSuccess = false) (found : response.status ≠ 404)
    (unopposed : response.status ≠ 409) :
    Fails kind round (.api response.status response.complaint)
  /-- The request has succeeded, but not all of the body arrived. -/
  | incomplete {response : Response} (there : round.response = some response)
    (success : response.isSuccess = true) (cut : response.content? = none) :
    Fails kind round (.transport "the response is incomplete")
  /-- The request has succeeded, and the body is not a document of the kind. -/
  | unreadable {response : Response} {bytes : List UInt8} {error : Document.DecodeError}
    (there : round.response = some response) (success : response.isSuccess = true)
    (arrived : response.content? = some bytes)
    (wrong : (Resource.decoder kind).decodeText bytes = .error error) :
    Fails kind round (.codec error.message)

variable {kind : Kind} {round : Round} {reason : Reason}

/-- A response that succeeds has no status that says otherwise. -/
theorem not_has_of_success {response : Response} (there : round.response = some response)
    (success : response.isSuccess = true) {status : Nat} (other : 300 ≤ status) :
    ¬round.Has status := by
  rintro ⟨again, thereAgain, rfl⟩
  obtain rfl := Option.some.inj (there.symm.trans thereAgain)
  have between : 200 ≤ response.status ∧ response.status < 300 := by
    simpa [Response.isSuccess] using success
  omega

/-- A response that shows a document has no status that says otherwise. -/
theorem Shows.not_has (shown : round.Shows kind) {status : Nat} (other : 300 ≤ status) :
    ¬round.Has status := by
  obtain ⟨document, response, bytes, there, success, -⟩ := shown
  exact not_has_of_success there success other

/-- A response has one status. -/
theorem Has.unique {first second : Nat} (has : round.Has first) (also : round.Has second) :
    first = second := by
  obtain ⟨response, there, rfl⟩ := has
  obtain ⟨again, thereAgain, rfl⟩ := also
  obtain rfl := Option.some.inj (there.symm.trans thereAgain)
  rfl

/-- A response that fails because nothing is there says so by its status, and no other does. -/
theorem Fails.has_missing_iff (fails : round.Fails kind reason) :
    round.Has 404 ↔ reason = .notFound := by
  cases fails with
  | missing has => exact iff_of_true has rfl
  | unanswered none =>
    refine iff_of_false ?_ nofun
    rintro ⟨response, there, -⟩
    rw [none] at there
    contradiction
  | taken has | conflicting has =>
    exact iff_of_false (fun missing => absurd (has.unique missing) (by decide)) nofun
  | refused there failed found =>
    refine iff_of_false ?_ nofun
    rintro ⟨response, thereAgain, missing⟩
    obtain rfl := Option.some.inj (there.symm.trans thereAgain)
    exact found missing
  | incomplete there success | unreadable there success =>
    exact iff_of_false (not_has_of_success there success (by decide)) nofun

/-- A response to a post that fails because something is there already says so by its status, and
no other does. -/
theorem Fails.has_taken_iff (fails : round.Fails kind reason)
    (posted : round.request.method = .post) : round.Has 409 ↔ reason = .alreadyExists := by
  cases fails with
  | taken has => exact iff_of_true has rfl
  | conflicting has other => exact absurd posted other
  | unanswered none =>
    refine iff_of_false ?_ nofun
    rintro ⟨response, there, -⟩
    rw [none] at there
    contradiction
  | missing has => exact iff_of_false (fun taken => absurd (has.unique taken) (by decide)) nofun
  | refused there failed found unopposed =>
    refine iff_of_false ?_ nofun
    rintro ⟨response, thereAgain, taken⟩
    obtain rfl := Option.some.inj (there.symm.trans thereAgain)
    exact unopposed taken
  | incomplete there success | unreadable there success =>
    exact iff_of_false (not_has_of_success there success (by decide)) nofun

/-- A response that fails shows nothing. -/
theorem Fails.not_shows (fails : round.Fails kind reason) : ¬round.Shows kind := by
  intro shown
  cases fails with
  | missing has | taken has | conflicting has => exact shown.not_has (by decide) has
  | unanswered none =>
    obtain ⟨_, _, _, there, -⟩ := shown
    rw [none] at there
    contradiction
  | refused there failed =>
    obtain ⟨_, _, _, thereAgain, success, -⟩ := shown
    obtain rfl := Option.some.inj (there.symm.trans thereAgain)
    rw [failed] at success
    contradiction
  | incomplete there success cut =>
    obtain ⟨_, _, _, thereAgain, -, arrived, -⟩ := shown
    obtain rfl := Option.some.inj (there.symm.trans thereAgain)
    rw [cut] at arrived
    contradiction
  | unreadable there success arrived wrong =>
    obtain ⟨_, _, _, thereAgain, -, arrivedAgain, decoded⟩ := shown
    obtain rfl := Option.some.inj (there.symm.trans thereAgain)
    obtain rfl := Option.some.inj (arrived.symm.trans arrivedAgain)
    rw [wrong] at decoded
    contradiction

end Round

namespace Client

variable {client : Client}

/-- What a request is made of. -/
theorem request?_eq_some_iff {kind : Kind} {call : Call kind} {request : Request} :
    client.request? call = some request ↔
      ∃ url authorization, Url.ofText? (client.address call) = some url ∧
        client.authorization? = some authorization ∧
        request = ⟨method call, url, authorization, client.body call⟩ := by
  constructor
  · intro formed
    obtain ⟨url, found, rest⟩ := Option.bind_eq_some_iff.1 formed
    obtain ⟨authorization, allowed, same⟩ := Option.bind_eq_some_iff.1 rest
    exact ⟨url, authorization, found, allowed, (Option.some.inj same).symm⟩
  · rintro ⟨url, authorization, found, allowed, rfl⟩
    rw [request?, found, allowed]
    rfl

/-- The round is that of the call: the request is the request of the call, and the answer is what
the response says. -/
structure Relays (client : Client) (exchange : Exchange) (round : Round) : Prop where
  /-- The request is formed from the call. -/
  formed : client.request? exchange.request = some round.request
  /-- The answer is taken from the response. -/
  answered : exchange.answer = answer exchange.request round.response

namespace Relays

variable {exchange : Exchange} {round : Round}

/-- The method of the request is that of the call. -/
theorem method_eq (relays : client.Relays exchange round) :
    round.request.method = Client.method exchange.request := by
  obtain ⟨url, authorization, -, -, same⟩ := request?_eq_some_iff.1 relays.formed
  rw [same]

/-- A status that speaks of a conflict fails for the reason that the call takes it for. -/
private theorem fails_of_conflict {kind : Kind} {call : Call kind}
    (method : round.request.method = Client.method call) (has : round.Has 409) :
    round.Fails kind (conflictReason call) := by
  cases call with
  | create => exact .taken has method
  | get | update =>
    refine .conflicting has ?_
    rw [method]
    nofun

/-- A response that succeeds shows a document, or fails for what is wrong with its body. -/
private theorem shown_or_failed_of_success {kind : Kind} {call : Call kind} {response : Response}
    {answer : Answer kind} (there : round.response = some response)
    (success : response.isSuccess = true)
    (said : answer = (readDocument kind response).mapError (⟨call.key, ·⟩)) :
    (∃ document, answer = .ok document ∧ round.ShowsDocument document) ∨
      ∃ reason, answer = .error ⟨call.key, reason⟩ ∧ round.Fails kind reason := by
  unfold readDocument at said
  split at said
  · next cut => exact .inr ⟨_, said, .incomplete there success cut⟩
  · next bytes arrived =>
    cases decoded : (Resource.decoder kind).decodeText bytes with
    | ok document =>
      rw [decoded] at said
      exact .inl ⟨document, said, response, bytes, there, success, arrived, decoded⟩
    | error error =>
      rw [decoded] at said
      exact .inr ⟨_, said, .unreadable there success arrived decoded⟩

/-- A call is answered with the document that the response shows, or with the reason for which it
shows none. -/
theorem shown_or_failed (relays : client.Relays exchange round) :
    (∃ document, exchange.answer = .ok document ∧ round.ShowsDocument document) ∨
      ∃ reason, exchange.answer = .error ⟨exchange.request.key, reason⟩ ∧
        round.Fails exchange.kind reason := by
  obtain ⟨number, kind, call, answer⟩ := exchange
  have method := relays.method_eq
  have answered : answer = Client.answer call round.response := relays.answered
  cases there : round.response with
  | none =>
    rw [there] at answered
    exact .inr ⟨_, answered, .unanswered there⟩
  | some response =>
    rw [there] at answered
    have said : answer = (readResponse call response).mapError (⟨call.key, ·⟩) := answered
    unfold readResponse at said
    split at said
    · next missing => exact .inr ⟨_, said, .missing ⟨response, there, missing⟩⟩
    · next found =>
      split at said
      · next conflict => exact .inr ⟨_, said, fails_of_conflict method ⟨response, there, conflict⟩⟩
      · next unopposed =>
        split at said
        · next success => exact shown_or_failed_of_success there success said
        · next failed =>
          have failed : response.isSuccess = false := by simpa using failed
          exact .inr ⟨_, said, .refused there failed found unopposed⟩

end Relays

/-- The rounds that a call adds to a log: one, if its request can be formed. -/
theorem perform_logged {σ : Type} {network : Network σ} {kind : Kind} {call : Call kind}
    {request : Request} (formed : client.request? call = some request)
    (held : σ × List Round) :
    ∃ response state, (client.repository network.logged).perform call held =
      (answer call response, state, held.2 ++ [⟨request, response⟩]) := by
  refine ⟨(network.exchange request held.1).1, (network.exchange request held.1).2, ?_⟩
  change client.perform network.logged call held = _
  rw [perform, formed]
  rfl

/-- A call whose request cannot be formed adds nothing to a log. -/
theorem perform_unformed {σ : Type} {network : Network σ} {kind : Kind} {call : Call kind}
    (unformed : client.request? call = none) (held : σ × List Round) :
    ((client.repository network.logged).perform call held).2 = held := by
  change (client.perform network.logged call held).2 = held
  rw [perform, unformed]

/-- Calls add a round each to a log if their requests can be formed. -/
theorem relays_of_leads {σ : Type} {network : Network σ} {exchanges : List Exchange}
    {held after : σ × List Round}
    (leads : (client.repository network.logged).Leads held exchanges after) :
    ∃ pairs : List (Exchange × Round),
      exchanges.filter (fun exchange => (client.request? exchange.request).isSome) =
        pairs.map (·.1) ∧
      after.2 = held.2 ++ pairs.map (·.2) ∧ ∀ pair ∈ pairs, client.Relays pair.1 pair.2 := by
  induction exchanges generalizing held with
  | nil =>
    obtain rfl : after = held := leads
    exact ⟨[], rfl, (List.append_nil _).symm, fun _ none => nomatch none⟩
  | cons exchange rest ih =>
    obtain ⟨answered, leads⟩ := leads
    cases formed : client.request? exchange.request with
    | none =>
      rw [perform_unformed formed] at leads
      rw [List.filter_cons, formed]
      exact ih leads
    | some request =>
      obtain ⟨response, state, performed⟩ := perform_logged formed held
      rw [performed] at answered leads
      obtain ⟨pairs, same, logged, relayed⟩ := ih leads
      refine ⟨(exchange, ⟨request, response⟩) :: pairs, ?_, ?_,
        List.forall_mem_cons.2 ⟨⟨formed, answered.symm⟩, relayed⟩⟩
      · rw [List.filter_cons, formed]
        exact congrArg (exchange :: ·) same
      · rw [logged, List.append_assoc]
        rfl

end Client

end HealthLedger.Http
