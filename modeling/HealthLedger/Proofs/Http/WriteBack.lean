import HealthLedger.Proofs.Document.Rewriting
import HealthLedger.Proofs.Http.Marks
import HealthLedger.Proofs.Http.Rounds
import HealthLedger.Proofs.State.Operation

/-!
# Writing back over a network

A writer gets a document and puts it back whole, so what it does not know of it must survive the
way through the decoder and back. What it puts is the value that it got, rewritten
(`Client.rewritten`): the namespace, the specification and the marks of the client are its own,
a version and an identity that are null are left out, and nothing else is touched
(`Client.bodyOf_of_ofValue`). So the text that it sends is the text of the rewritten value
(`State.Operation.sends_back`), which is read as this value if the numbers in it are read as they
are printed. Some doubles are not (`State.Operation.short_load_drifts`).
-/

namespace HealthLedger.Http

/-- The network that remembers the requests it takes. -/
def Network.recorded {σ : Type} (network : Network σ) : Network (σ × List Request) where
  exchange request held :=
    let (response, state) := network.exchange request held.1
    (response, state, held.2 ++ [request])

namespace Client

open Json (Value Members Object findMember)
open Document (Kind Resource Metadata)
open Store (Call Answer)

variable {client : Client} {kind : Kind}

/-- The value of a document that goes to a namespace, with another specification and the marks of a
client. -/
def rewritten (client : Client) (kind : Kind) (space : String) (change : Value → Value)
    (value : Value) : Value :=
  (((value.withChanged "metadata" (Metadata.relocated space)).withChanged "spec"
    change).withMember "apiVersion" (.string client.groupVersion)).withMember "kind"
      (.string kind.name)

/-- A document that was read is sent as the value it was read from, rewritten with the specification
it has now. -/
theorem bodyOf_of_ofValue (client : Client) {value : Value} (ordered : value.Ordered)
    {document : Resource kind} (read : (Resource.decoder kind).ofValue value = .ok document)
    (space : String) {spec : kind.Spec} (framedSpec : kind.SpecFramed spec)
    (change : Value → Value)
    (changed : ∀ held, value.member? "spec" = some held →
      .ofMembers (kind.specMembers spec) = change held) :
    client.bodyOf { document with spec } space = client.rewritten kind space change value := by
  have framed := (Resource.framed_of_ofValue read).1
  let sent : Resource kind :=
    { document with spec, metadata := { document.metadata with space } }
  have sentFramed : sent.Framed := ⟨framed.metadata, framedSpec, framed.extra⟩
  have map := Resource.isMap_of_ordered ordered read
  have relocated : ∀ held, value.member? "metadata" = some held →
      Value.ofMembers sent.metadata.members = Metadata.relocated space held := by
    intro held there
    have readMetadata := Resource.ofValue_metadata read there
    have mapHeld := Metadata.isMap_of_ordered (ordered.member? there) readMetadata
    exact Metadata.toValue_of_ofValue mapHeld readMetadata space
  have written := Resource.toValue_of_ofValue map read sentFramed rfl relocated changed
  rw [rewritten, ← written, Resource.toValue, Value.withMember_ofMembers,
    Value.withMember_ofMembers, List.append_assoc]
  rfl

/-- A recorded network remembers the request of a call. -/
theorem perform_recorded {σ : Type} {call : Call kind} {request : Request}
    (formed : client.request? call = some request) (network : Network σ)
    (held : σ × List Request) :
    (client.repository network.recorded).perform call held =
      (answer call (network.exchange request held.1).1, (network.exchange request held.1).2,
        held.2 ++ [request]) := by
  change client.perform network.recorded call held = _
  rw [perform, formed]
  rfl

/-- The answer to a call that succeeds is what is decoded from the response. -/
theorem answer_of_success {response : Response} (success : response.isSuccess = true)
    {bytes : List UInt8} (arrived : response.content? = some bytes) {document : Resource kind}
    (decoded : (Resource.decoder kind).decodeText bytes = .ok document) (call : Call kind) :
    answer call (some response) = .ok document := by
  have between : 200 ≤ response.status ∧ response.status < 300 := by
    simpa [Response.isSuccess] using success
  have found : response.status ≠ 404 := by omega
  have unopposed : response.status ≠ 409 := by omega
  have read : readResponse call response = .ok document := by
    rw [readResponse, if_neg found, if_neg unopposed, if_pos success, readDocument, arrived]
    exact mapError_eq_ok_iff.2 decoded
  exact mapError_eq_ok_iff.2 read

end Client

end HealthLedger.Http

namespace HealthLedger.State

open Json (Value)
open Document (Kind Resource)
open Http (Client Network Request Response Url)
open Store (Program Call Clock World)

namespace Operation

/-- What an operation makes of the value of a specification at a time. -/
def specChange (now : Time.Instant) : Operation → Value → Value
  | .write pod _ _ details, _ =>
    .ofMembers (Document.Details.members
      { details with authoritativePod := pod, lastRun := some now })
  | .setPhase _ _ phase, spec => spec.withMember "phase" phase.toValue
  | _, spec => spec

variable {operation : Operation} {revision : Revision}

/-- What a writer makes of a document that was read is sent as the value that was read,
rewritten. -/
theorem bodyOf_revise (writes : operation.revision? = some revision) (client : Client)
    {value : Value} (ordered : value.Ordered) {document : Resource revision.key.kind}
    (read : (Resource.decoder revision.key.kind).ofValue value = .ok document)
    (space : String) (now : Time.Instant) :
    client.bodyOf (revision.revise now document) space =
      client.rewritten revision.key.kind space (operation.specChange now) value := by
  cases operation with
  | write pod name target details =>
    obtain rfl := Option.some.inj writes
    let stamped : Document.Details := { details with authoritativePod := pod, lastRun := some now }
    have framed : Kind.SpecFramed .checkState stamped := trivial
    have sent := client.bodyOf_of_ofValue ordered read space framed
      (specChange now (.write pod name target details)) fun held _ => rfl
    exact sent
  | setPhase name target phase =>
    obtain rfl := Option.some.inj writes
    let spec : Document.JobSpec := document.spec
    have framed : Kind.SpecFramed .checkJob { spec with phase } :=
      (Resource.framed_of_ofValue read).1.spec
    have sent := client.bodyOf_of_ofValue ordered read space framed
      (specChange now (.setPhase name target phase)) fun held there => by
        have readSpec := Resource.ofValue_spec read there
        have mapHeld := Document.JobSpec.isMap_of_ordered (ordered.member? there) readSpec
        exact Document.JobSpec.toValue_of_ofValue mapHeld readSpec phase
    exact sent
  | ensure | read | ask => contradiction

/-- A document that a writer has revised is framed and can be sent if the one it found is and
can. -/
theorem revise_sendable (writes : operation.revision? = some revision) (now : Time.Instant)
    {document : Resource revision.key.kind} (framed : document.Framed)
    (sendable : document.Sendable) :
    (revision.revise now document).Framed ∧ (revision.revise now document).Sendable := by
  cases operation with
  | write =>
    obtain rfl := Option.some.inj writes
    exact ⟨⟨framed.metadata, trivial, framed.extra⟩,
      ⟨sendable.metadata, trivial, sendable.extra⟩⟩
  | setPhase =>
    obtain rfl := Option.some.inj writes
    exact ⟨⟨framed.metadata, framed.spec, framed.extra⟩,
      ⟨sendable.metadata, sendable.spec, sendable.extra⟩⟩
  | ensure | read | ask => contradiction

/-- A writer that gets a document sends one more request, which puts the document as it has revised
it. -/
theorem puts_revision {σ : Type} {client : Client} {network : Network σ}
    (writes : operation.revision? = some revision) (clock : Clock)
    (world : World (σ × List Request)) {asked : Request}
    (formed : client.request? (.get revision.key.name revision.key.space :
      Call revision.key.kind) = some asked)
    {response : Response} {middle : σ}
    (responded : network.exchange asked world.state.1 = (some response, middle))
    (success : response.isSuccess = true) {bytes : List UInt8}
    (arrived : response.content? = some bytes) {document : Resource revision.key.kind}
    (decoded : (Resource.decoder revision.key.kind).decodeText bytes = .ok document) {url : Url}
    (there : Url.ofText? (client.objectAddress (document.keyIn revision.key.space)) = some url) :
    (operation.program.run (client.repository network.recorded) clock world).2.state.2 =
      world.state.2 ++ [asked, ⟨.put, url, asked.authorization, some (client.bodyOf
        (revision.revise (clock world.ticks) document) revision.key.space).text⟩] := by
  let update : Call revision.key.kind :=
    .update (revision.revise (clock world.ticks) document) revision.key.space
  have put : client.request? update =
      some ⟨.put, url, asked.authorization, client.body update⟩ := by
    obtain ⟨_, authorization, -, allowed, rfl⟩ := Client.request?_eq_some_iff.1 formed
    rw [← revise_keyIn writes (clock world.ticks)] at there
    exact Client.request?_eq_some_iff.2 ⟨url, authorization, there, allowed, rfl⟩
  have got : (client.repository network.recorded).perform
      (.get revision.key.name revision.key.space) world.state =
        (.ok document, middle, world.state.2 ++ [asked]) := by
    rw [Client.perform_recorded formed, responded,
      Client.answer_of_success success arrived decoded]
  rw [run_of_revision writes _ clock world got, Client.perform_recorded put, List.append_assoc]
  rfl

/-- A writer that gets a document sends one more request: it puts the value that it got, rewritten,
at the name that the value has. Whoever parses what it sends gets the rewritten value, if the
numbers in the value are read as they are printed. -/
theorem sends_back {σ : Type} {client : Client} {network : Network σ}
    (writes : operation.revision? = some revision) (clock : Clock)
    (world : World (σ × List Request)) {asked : Request}
    (formed : client.request? (.get revision.key.name revision.key.space :
      Call revision.key.kind) = some asked)
    {response : Response} {middle : σ}
    (responded : network.exchange asked world.state.1 = (some response, middle))
    (success : response.isSuccess = true) {bytes : List UInt8}
    (arrived : response.content? = some bytes) {document : Resource revision.key.kind}
    (decoded : (Resource.decoder revision.key.kind).decodeText bytes = .ok document)
    {value : Value} (parsed : Json.parse bytes = .ok value) :
    let body := client.rewritten revision.key.kind revision.key.space
      (operation.specChange (clock world.ticks)) value
    ∃ name, (value.member? "metadata").bind (·.member? "name") = some (.string name) ∧
      (∀ url, Url.ofText? (client.objectAddress ⟨revision.key.kind, name, revision.key.space⟩) =
          some url →
        (operation.program.run (client.repository network.recorded) clock world).2.state.2 =
          world.state.2 ++ [asked, ⟨.put, url, asked.authorization, some body.text⟩]) ∧
      (value.Readable → Json.parse (Text.Utf8.encode body.text) = .ok body) := by
  intro body
  have read := Resource.ofValue_of_decodeText decoded parsed
  have sent : client.bodyOf (revision.revise (clock world.ticks) document) revision.key.space =
      body :=
    bodyOf_revise writes client (Json.ordered_of_parse parsed) read revision.key.space _
  refine ⟨document.name, Resource.member?_name_of_ofValue read, fun url there => ?_,
    fun readable => ?_⟩
  · rw [← sent]
    exact puts_revision writes clock world formed responded success arrived decoded there
  · have framed := (Resource.framed_of_ofValue read).1
    have sendable :=
      Resource.sendable_of_decodeText decoded (Resource.readable_of_ofValue read readable)
    obtain ⟨framedAfter, sendableAfter⟩ :=
      revise_sendable writes (clock world.ticks) framed sendable
    rw [← sent]
    exact client.bodyOf_arrives framedAfter sendableAfter revision.key.space

/-- A response that succeeds with a text. -/
def succeeding (text : String) : Response where
  status := 200
  body := Text.Utf8.encode text

/-- The network on which every request is answered with a text. -/
def answering (text : String) : Network Unit :=
  ⟨fun _ state => (some (succeeding text), state)⟩

/-- A client completes a job. -/
def completion : Operation := .setPhase "nightly" "ops" .completed

/-- What the default client sends when it completes a job for which it gets a text. -/
def requestsFor (text : String) : List Request :=
  (completion.program.run ((Client.ofConfig {}).repository (answering text).recorded) default
    ⟨((), []), 0, []⟩).2.state.2

/-- The value that the default client sends for a completed job. -/
def completed (value : Value) : Value :=
  (Client.ofConfig {}).rewritten .checkJob "ops" (completion.specChange default) value

/-- A job with members of others and an identity that is null. -/
def finalizedJob : String :=
  "\x7b\"metadata\":\x7b\"finalizers\":[\"drain\"],\"name\":\"nightly\",\"uid\":null\x7d," ++
    "\"spec\":\x7b\"retries\":3\x7d,\"status\":true\x7d"

/-- The job after it was completed. -/
def completedJob : String :=
  "\x7b\"apiVersion\":\"checkstate.dev/v1\",\"kind\":\"CheckJob\",\"metadata\":" ++
    "\x7b\"finalizers\":[\"drain\"],\"name\":\"nightly\",\"namespace\":\"ops\"\x7d," ++
    "\"spec\":\x7b\"phase\":\"Completed\",\"retries\":3\x7d,\"status\":true\x7d"

/-- A job with members of others is sent back with them. -/
theorem finalized_job_sent_back :
    ∃ url, requestsFor finalizedJob =
      [⟨.get, url, none, none⟩, ⟨.put, url, none, some completedJob⟩] := by
  have writes : completion.revision? =
    some ⟨⟨.checkJob, "nightly", "ops"⟩, fun _ => revisedJob .completed⟩ := rfl
  obtain ⟨url, there⟩ := Option.isSome_iff_exists.1
    (show (Url.ofText? ((Client.ofConfig {}).objectAddress ⟨.checkJob, "nightly", "ops"⟩)).isSome
      by decide +kernel)
  have formed : (Client.ofConfig {}).request? (.get "nightly" "ops" : Call .checkJob) =
      some ⟨.get, url, none, none⟩ :=
    Client.request?_eq_some_iff.2 ⟨url, none, there, rfl, rfl⟩
  obtain ⟨document, decoded, -⟩ := toOption_map_eq_some_iff.1
    (show ((Resource.decoder .checkJob).decodeText (Text.Utf8.encode finalizedJob)).toOption.map
      (fun _ => ()) = some () by decide +kernel)
  obtain ⟨value, parsed, shown⟩ := toOption_map_eq_some_iff.1
    (show (Json.parse (Text.Utf8.encode finalizedJob)).toOption.map
      (fun value => ((completed value).text, Http.Api.metadataText? "name" value)) =
        some (completedJob, some "nightly") by decide +kernel)
  let world : World (Unit × List Request) := ⟨((), []), 0, []⟩
  have answered : (answering finalizedJob).exchange ⟨.get, url, none, none⟩ world.state.1 =
    (some (succeeding finalizedJob), ()) := rfl
  have arrived : (succeeding finalizedJob).content? =
    some (Text.Utf8.encode finalizedJob) := rfl
  obtain ⟨name, named, sent, -⟩ :=
    sends_back writes default world formed answered rfl arrived decoded parsed
  obtain ⟨text, called⟩ := Prod.mk.inj shown
  rw [Http.Api.metadataText?, named] at called
  obtain rfl := Option.some.inj called
  refine ⟨url, ?_⟩
  rw [requestsFor, sent url there, ← text]
  rfl

/-- The load of a job, if it is a number. -/
def loadOf? (value : Value) : Option Json.Number :=
  match (value.member? "spec").bind (·.member? "load") with
  | some (.number load) => some load
  | _ => none

/-- A job with a load of one digit. -/
def loadedJob : String :=
  "\x7b\"metadata\":\x7b\"name\":\"nightly\"\x7d,\"spec\":\x7b\"load\":5e32\x7d\x7d"

/-- What is sent for the job. -/
def driftedJob : String :=
  "\x7b\"apiVersion\":\"checkstate.dev/v1\",\"kind\":\"CheckJob\",\"metadata\":" ++
    "\x7b\"name\":\"nightly\",\"namespace\":\"ops\"\x7d," ++
    "\"spec\":\x7b\"load\":5.0000000000000004e+32,\"phase\":\"Completed\"\x7d\x7d"

/-- A load that is printed otherwise than it was written, and read otherwise than it is printed,
does not come back to the server. -/
theorem short_load_drifts :
    ∃ value again,
      Json.parse (Text.Utf8.encode loadedJob) = .ok value ∧
      ((Resource.decoder .checkJob).decodeText (Text.Utf8.encode loadedJob)).toOption.isSome ∧
      (requestsFor loadedJob).map (fun request => (request.method, request.body)) =
        [(.get, none), (.put, some driftedJob)] ∧
      Json.parse (Text.Utf8.encode driftedJob) = .ok again ∧ again ≠ completed value := by
  obtain ⟨value, parsed, kept⟩ := toOption_map_eq_some_iff.1
    (show (Json.parse (Text.Utf8.encode loadedJob)).toOption.map
      (fun value => loadOf? (completed value)) =
        some (some (.float ⟨false, 6938893903907229, 1130⟩)) by decide +kernel)
  obtain ⟨again, parsedAgain, read⟩ := toOption_map_eq_some_iff.1
    (show (Json.parse (Text.Utf8.encode driftedJob)).toOption.map loadOf? =
      some (some (.float ⟨false, 6938893903907228, 1130⟩)) by decide +kernel)
  have decoded : ((Resource.decoder .checkJob).decodeText
      (Text.Utf8.encode loadedJob)).toOption.isSome := by
    decide +kernel
  have sent : (requestsFor loadedJob).map (fun request => (request.method, request.body)) =
      [(.get, none), (.put, some driftedJob)] := by
    decide +kernel
  refine ⟨value, again, parsed, decoded, sent, parsedAgain, fun same => ?_⟩
  rw [same, kept] at read
  exact absurd read (by decide)

end Operation

end HealthLedger.State
