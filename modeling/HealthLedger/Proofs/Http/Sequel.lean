import HealthLedger.Proofs.Http.Rounds
import HealthLedger.Proofs.State.Candor
import HealthLedger.Proofs.State.Isolation

/-!
# What follows the first call

What an operation on states and jobs asks after its first call follows from what it was answered
(`Operation.Course.sequel`). The first call gets the object that the operation addresses. A reader
that has found nothing creates its state, a writer updates the document that it has got, and a
reader of details gets the object once more when it is sure that there is one. All calls are for
this object (`Operation.Course.owns`, `Operation.Course.key_of_mem`). Over a network every answer
is what the response says (`Client.Relays.shows_iff`, `Client.Relays.missing_iff`,
`Client.Relays.taken_iff`).
-/

namespace HealthLedger.Store

/-- A call was answered that there is no such document. -/
def Exchange.FindsMissing (exchange : Exchange) : Prop :=
  ∃ error, exchange.error? = some error ∧ error.isNotFound

/-- A call that was answered with a document has not been answered that there is none. -/
theorem Exchange.not_findsMissing {exchange : Exchange} (found : exchange.error? = none) :
    ¬exchange.FindsMissing := by
  rintro ⟨error, failed, -⟩
  rw [found] at failed
  contradiction

end HealthLedger.Store

namespace HealthLedger.Http.Client

open Document (Kind Resource)
open Store (Call Exchange Error)

/-- A call that is posted is a create. -/
theorem isCreate_iff {kind : Kind} {call : Call kind} :
    call.isCreate ↔ method call = .post := by
  cases call <;> simp [Call.isCreate, method]

/-- A call that is put is an update. -/
theorem isUpdate_iff {kind : Kind} {call : Call kind} :
    call.isUpdate ↔ method call = .put := by
  cases call <;> simp [Call.isUpdate, method]

namespace Relays

variable {client : Client} {exchange : Exchange} {round : Round}

/-- A call is answered with the document that the response shows. -/
theorem shows_of_ok (relays : client.Relays exchange round) {document : Resource exchange.kind}
    (answered : exchange.answer = .ok document) : round.ShowsDocument document := by
  obtain ⟨shown, ok, shows⟩ | ⟨reason, failed, -⟩ := relays.shown_or_failed
  · obtain rfl := Except.ok.inj (answered.symm.trans ok)
    exact shows
  · rw [answered] at failed
    contradiction

/-- A call is answered with the failure of the response, which names the key of the call. -/
theorem fails_of_error (relays : client.Relays exchange round) {error : Error}
    (failed : exchange.error? = some error) :
    round.Fails exchange.kind error.reason ∧ error.key = exchange.request.key := by
  have answered : exchange.answer = .error error := Store.Answer.error?_eq_some.1 failed
  obtain ⟨document, ok, -⟩ | ⟨reason, told, fails⟩ := relays.shown_or_failed
  · rw [answered] at ok
    contradiction
  · obtain rfl := Except.error.inj (answered.symm.trans told)
    exact ⟨fails, rfl⟩

/-- A call succeeds if and only if the response shows a document. -/
theorem shows_iff (relays : client.Relays exchange round) :
    round.Shows exchange.kind ↔ exchange.error? = none := by
  cases failed : exchange.error? with
  | some error =>
    exact iff_of_false (relays.fails_of_error failed).1.not_shows nofun
  | none =>
    refine iff_of_true ?_ rfl
    obtain ⟨document, -, shows⟩ | ⟨reason, told, -⟩ := relays.shown_or_failed
    · exact ⟨document, shows⟩
    · rw [Exchange.error?, told] at failed
      contradiction

/-- A call finds nothing if and only if the status says so. -/
theorem missing_iff (relays : client.Relays exchange round) :
    round.Has 404 ↔ exchange.FindsMissing := by
  cases failed : exchange.error? with
  | some error =>
    rw [(relays.fails_of_error failed).1.has_missing_iff]
    simp [Exchange.FindsMissing, failed, Error.isNotFound]
  | none =>
    have shown := relays.shows_iff.2 failed
    exact iff_of_false (shown.not_has (by decide)) (Exchange.not_findsMissing failed)

/-- A post finds a document in its place if and only if the status says so. -/
theorem taken_iff (relays : client.Relays exchange round)
    (posts : method exchange.request = .post) : round.Has 409 ↔ exchange.FindsTaken := by
  have isCreate : exchange.request.isCreate := isCreate_iff.2 posts
  cases failed : exchange.error? with
  | some error =>
    rw [(relays.fails_of_error failed).1.has_taken_iff (relays.method_eq.trans posts)]
    simp [Exchange.FindsTaken, isCreate, failed, Error.isAlreadyExists]
  | none =>
    have shown := relays.shows_iff.2 failed
    refine iff_of_false (shown.not_has (by decide)) ?_
    rintro ⟨-, error, told, -⟩
    rw [failed] at told
    contradiction

end Relays

end HealthLedger.Http.Client

namespace HealthLedger.State

open Document (Kind Key Metadata Resource)
open Store (Call Answer Error Reason Exchange Clock World)
open Http (Client Network Round Method)

namespace Operation

/-- The call that gets what the operation addresses. -/
def gets (operation : Operation) : Call operation.key.kind :=
  .get operation.key.name operation.key.space

/-- The operation is to read the details of a state. -/
def ReadsDetails : Operation → Prop
  | .read _ _ _ => True
  | _ => False

/-- An operation that reads details is a reader. -/
theorem ReadsDetails.reader {operation : Operation} (details : operation.ReadsDetails) :
    operation.consultation?.isSome := by
  cases operation with
  | read => rfl
  | ensure | write | setPhase | ask => exact details.elim

/-- An operation that reads details does not only make sure of a state. -/
theorem ReadsDetails.not_onlyEnsures {operation : Operation} (details : operation.ReadsDetails) :
    ¬operation.OnlyEnsures := by
  cases operation with
  | read => exact id
  | ensure | write | setPhase | ask => exact details.elim

/-- An operation that only makes sure of a state is a reader. -/
theorem OnlyEnsures.reader {operation : Operation} (only : operation.OnlyEnsures) :
    operation.consultation?.isSome := by
  cases operation with
  | ensure => rfl
  | read | write | setPhase | ask => exact only.elim

/-- A writer is not a reader. -/
theorem not_reader_of_writer {operation : Operation} (writer : operation.revision?.isSome) :
    ¬operation.consultation?.isSome := by
  obtain ⟨revision, writes⟩ := Option.isSome_iff_exists.1 writer
  rw [consultation?_of_revision writes]
  nofun

/-- What an operation asks after its first call, by what it was answered. -/
inductive Sequel (operation : Operation) (first : Exchange) : List Exchange → Prop
  /-- The first call has failed otherwise than by finding nothing, or shows all that an operation
  needs that makes sure of a state. -/
  | nothing (found : operation.consultation?.isSome → ¬first.FindsMissing)
    (ends : first.error? = none → operation.OnlyEnsures) : Sequel operation first []
  /-- A reader that has found nothing has created its state, and is to do no more or has failed. -/
  | creates {created : Exchange} (posts : Client.method created.request = .post)
    (reader : operation.consultation?.isSome) (missing : first.FindsMissing)
    (ends : created.error? = none ∨ created.FindsTaken → operation.OnlyEnsures) :
    Sequel operation first [created]
  /-- A reader of details gets the state that it has found. -/
  | rereads {got : Exchange} (gets : Client.method got.request = .get)
    (details : operation.ReadsDetails) (found : first.error? = none) :
    Sequel operation first [got]
  /-- A reader of details gets the state that it, or someone else, has created. -/
  | createsAndReads {created got : Exchange} (posts : Client.method created.request = .post)
    (gets : Client.method got.request = .get) (details : operation.ReadsDetails)
    (missing : first.FindsMissing) (there : created.error? = none ∨ created.FindsTaken) :
    Sequel operation first [created, got]
  /-- A writer updates the document that it has got. -/
  | updates {updated : Exchange} (puts : Client.method updated.request = .put)
    (writer : operation.revision?.isSome) (found : first.error? = none) :
    Sequel operation first [updated]

namespace Sequel

variable {operation : Operation} {first : Exchange} {rest : List Exchange}

/-- A document is created by a reader that has found nothing. -/
theorem posts_iff (sequel : operation.Sequel first rest) :
    (∃ exchange ∈ rest, Client.method exchange.request = .post) ↔
      operation.consultation?.isSome ∧ first.FindsMissing := by
  cases sequel with
  | nothing found => exact iff_of_false (by simp) fun reads => found reads.1 reads.2
  | creates posts reader missing => simp [posts, reader, missing]
  | rereads gets details found | updates gets writer found =>
    have present := Exchange.not_findsMissing found
    simp [gets, present]
  | createsAndReads posts gets details missing => simp [posts, details.reader, missing]

/-- A document is updated by a writer that has got it. -/
theorem puts_iff (sequel : operation.Sequel first rest) :
    (∃ exchange ∈ rest, Client.method exchange.request = .put) ↔
      operation.revision?.isSome ∧ first.error? = none := by
  cases sequel with
  | nothing found ends =>
    refine iff_of_false (by simp) fun writes => ?_
    exact not_reader_of_writer writes.1 (ends writes.2).reader
  | creates posts reader missing =>
    refine iff_of_false (by simp [posts]) fun writes => not_reader_of_writer writes.1 reader
  | rereads gets details found =>
    refine iff_of_false (by simp [gets]) fun writes => ?_
    exact not_reader_of_writer writes.1 details.reader
  | createsAndReads posts gets details missing =>
    refine iff_of_false (by simp [posts, gets]) fun writes => ?_
    exact not_reader_of_writer writes.1 details.reader
  | updates puts writer found => simp [puts, writer, found]

/-- A state is got once more by a reader of details that is sure that there is one. -/
theorem gets_iff (sequel : operation.Sequel first rest) :
    (∃ exchange ∈ rest, Client.method exchange.request = .get) ↔
      operation.ReadsDetails ∧ (first.error? = none ∨ ∃ created ∈ rest,
        Client.method created.request = .post ∧
          (created.error? = none ∨ created.FindsTaken)) := by
  cases sequel with
  | nothing found ends =>
    refine iff_of_false (by simp) ?_
    rintro ⟨details, shown | ⟨created, none, -⟩⟩
    · exact details.not_onlyEnsures (ends shown)
    · exact nomatch none
  | creates posts reader missing ends =>
    refine iff_of_false (by simp [posts]) ?_
    rintro ⟨details, shown | ⟨created, last, -, there⟩⟩
    · exact Exchange.not_findsMissing shown missing
    · obtain rfl := List.mem_singleton.1 last
      exact details.not_onlyEnsures (ends there)
  | rereads gets details found => simp [gets, details, found]
  | createsAndReads posts gets details missing there => simp [posts, gets, details, there]
  | updates puts writer found =>
    refine iff_of_false (by simp [puts]) fun again => ?_
    exact not_reader_of_writer writer again.1.reader

/-- An operation that only makes sure of a state finds it created by someone else, if it does, in
its last call. -/
theorem taken_iff (sequel : operation.Sequel first rest)
    (gets : Client.method first.request = .get) (only : operation.OnlyEnsures) :
    (rest.getLastD first).FindsTaken ↔
      ∃ exchange ∈ rest, Client.method exchange.request = .post ∧ exchange.FindsTaken := by
  cases sequel with
  | nothing =>
    refine iff_of_false (fun taken => ?_) (by simp)
    exact nomatch gets.symm.trans (Client.isCreate_iff.1 taken.1)
  | creates posts => simp [posts]
  | rereads gets details | createsAndReads posts gets details =>
    exact absurd only details.not_onlyEnsures
  | updates puts writer => exact absurd only.reader (not_reader_of_writer writer)

/-- The methods of the calls that may follow, in their order. -/
def methods : List (List Method) := [[], [.post], [.get], [.post, .get], [.put]]

/-- Nothing else is asked. -/
theorem methods_eq (sequel : operation.Sequel first rest) :
    rest.map (fun exchange => Client.method exchange.request) ∈ methods := by
  cases sequel with
  | nothing => decide
  | creates posts => simp [posts, methods]
  | rereads gets => simp [gets, methods]
  | createsAndReads posts gets => simp [posts, gets, methods]
  | updates puts => simp [puts, methods]

end Sequel

variable {operation : Operation} {exchanges : List Exchange} {outcome : Outcome}

/-- A reader of details that is sure that its state exists has got it, or has created it. -/
theorem Sequel.of_assured (details : operation.ReadsDetails) {consultation : Consultation}
    (assurance : Assurance consultation exchanges (.ok ())) {got : Exchange}
    (gets : Client.method got.request = .get) :
    ∃ answer rest, exchanges ++ [got] = consultation.gets answer :: rest ∧
      operation.Sequel (consultation.gets answer) rest := by
  cases assurance with
  | found state => exact ⟨_, _, rfl, .rereads gets details rfl⟩
  | created absent state =>
    exact ⟨_, _, rfl, .createsAndReads rfl gets details ⟨_, rfl, absent⟩ (.inl rfl)⟩
  | taken absent present =>
    exact ⟨_, _, rfl,
      .createsAndReads rfl gets details ⟨_, rfl, absent⟩ (.inr ⟨rfl, _, rfl, present⟩)⟩

/-- A get that has failed otherwise than by finding nothing is followed by nothing. -/
theorem Sequel.of_unknown {first : Exchange} {error : Error} (failed : first.error? = some error)
    (other : error.isNotFound = false) : operation.Sequel first [] := by
  refine .nothing ?_ fun found => ?_
  · rintro - ⟨missing, told, absent⟩
    obtain rfl := Option.some.inj (failed.symm.trans told)
    rw [other] at absent
    contradiction
  · rw [found] at failed
    contradiction

/-- A create that has failed otherwise than by finding the state created is followed by nothing. -/
theorem Sequel.of_refused {first created : Exchange} (posts : Client.method created.request = .post)
    (reader : operation.consultation?.isSome) (missing : first.FindsMissing) {error : Error}
    (failed : created.error? = some error) (other : error.isAlreadyExists = false) :
    operation.Sequel first [created] := by
  refine .creates posts reader missing ?_
  rintro (done | ⟨-, again, told, taken⟩)
  · rw [done] at failed
    contradiction
  · obtain rfl := Option.some.inj (failed.symm.trans told)
    rw [other] at taken
    contradiction

/-- An operation on states and jobs gets what it addresses, and goes on by what it was answered. -/
theorem Course.sequel (course : operation.Course exchanges outcome) :
    ∃ answer rest, exchanges = .alone operation.gets answer :: rest ∧
      operation.Sequel (.alone operation.gets answer) rest := by
  cases course with
  | ensured assurance =>
    cases assurance with
    | found state =>
      exact ⟨_, _, rfl, .nothing (fun _ => Exchange.not_findsMissing rfl) fun _ => trivial⟩
    | unknown other => exact ⟨_, _, rfl, .of_unknown rfl other⟩
    | created absent | taken absent =>
      exact ⟨_, _, rfl, .creates rfl rfl ⟨_, rfl, absent⟩ fun _ => trivial⟩
    | refused absent other => exact ⟨_, _, rfl, .of_refused rfl rfl ⟨_, rfl, absent⟩ rfl other⟩
  | unsure assurance =>
    cases assurance with
    | unknown other => exact ⟨_, _, rfl, .of_unknown rfl other⟩
    | refused absent other => exact ⟨_, _, rfl, .of_refused rfl rfl ⟨_, rfl, absent⟩ rfl other⟩
  | @unread rawName space workload _ assurance error =>
    have details : (Operation.read rawName space workload).ReadsDetails := trivial
    exact Sequel.of_assured details assurance rfl
  | @read rawName space workload _ assurance state =>
    have details : (Operation.read rawName space workload).ReadsDetails := trivial
    exact Sequel.of_assured details assurance rfl
  | unchanged writes error =>
    cases operation with
    | write | setPhase =>
      obtain rfl := Option.some.inj writes
      exact ⟨_, _, rfl, .nothing nofun nofun⟩
    | ensure | read | ask => contradiction
  | revised writes document now answer =>
    cases operation with
    | write | setPhase =>
      obtain rfl := Option.some.inj writes
      exact ⟨_, _, rfl, .updates rfl rfl rfl⟩
    | ensure | read | ask => contradiction

/-- Every call is for documents of the kind that the operation addresses, and a get is the get of
the object that it addresses. -/
def Owns (operation : Operation) (exchange : Exchange) : Prop :=
  ∃ (call : Call operation.key.kind) (answer : Answer operation.key.kind),
    exchange = .alone call answer ∧ (Client.method call = .get → call = operation.gets)

/-- Making sure of a state takes calls for this state. -/
theorem owns_of_assurance {consultation : Consultation} {result : Except Error Unit}
    (own : ∀ answer, operation.Owns (consultation.gets answer))
    (ownAlso : ∀ answer, operation.Owns (consultation.creates answer))
    (assurance : Assurance consultation exchanges result) :
    ∀ exchange ∈ exchanges, operation.Owns exchange := by
  obtain ⟨answer, rfl, -⟩ | ⟨missing, answer, rfl, -⟩ := assurance.asks
  · exact List.forall_mem_singleton.2 (own _)
  · exact List.forall_mem_cons.2 ⟨own _, List.forall_mem_singleton.2 (ownAlso _)⟩

/-- An operation on states and jobs makes calls of its own. -/
theorem Course.owns (course : operation.Course exchanges outcome) :
    ∀ exchange ∈ exchanges, operation.Owns exchange := by
  cases course with
  | ensured assurance | unsure assurance =>
    exact owns_of_assurance (fun answer => ⟨_, answer, rfl, fun _ => rfl⟩)
      (fun answer => ⟨_, answer, rfl, nofun⟩) assurance
  | unread assurance error | read assurance state =>
    refine List.forall_mem_append.2 ⟨?_, List.forall_mem_singleton.2 ⟨_, _, rfl, fun _ => rfl⟩⟩
    exact owns_of_assurance (fun answer => ⟨_, answer, rfl, fun _ => rfl⟩)
      (fun answer => ⟨_, answer, rfl, nofun⟩) assurance
  | unchanged writes error =>
    cases operation with
    | write | setPhase =>
      obtain rfl := Option.some.inj writes
      exact List.forall_mem_singleton.2 ⟨_, _, rfl, fun _ => rfl⟩
    | ensure | read | ask => contradiction
  | revised writes document now answer =>
    cases operation with
    | write | setPhase =>
      obtain rfl := Option.some.inj writes
      exact List.forall_mem_cons.2 ⟨⟨_, _, rfl, fun _ => rfl⟩,
        List.forall_mem_singleton.2 ⟨_, _, rfl, nofun⟩⟩
    | ensure | read | ask => contradiction

/-- What a reader posts is its empty state. -/
theorem Course.created_of_mem (course : operation.Course exchanges outcome) {created : Exchange}
    (asked : created ∈ exchanges) (posts : Client.method created.request = .post) :
    ∃ consultation answer, operation.consultation? = some consultation ∧
      created = consultation.creates answer := by
  obtain ⟨before, after, cut⟩ := List.append_of_mem asked
  obtain ⟨consultation, missing, answer, reads, -, -, same⟩ :=
    course.created cut (Client.isCreate_iff.2 posts)
  exact ⟨consultation, answer, reads, same⟩

/-- What a writer puts is what it makes of the document that it was answered first. -/
theorem Course.updated_of_mem {first updated : Exchange} {rest : List Exchange}
    (course : operation.Course (first :: rest) outcome) (asked : updated ∈ first :: rest)
    (puts : Client.method updated.request = .put) :
    ∃ revision document now answer, operation.revision? = some revision ∧
      first = revision.gets (.ok document) ∧ updated = revision.puts now document answer := by
  obtain ⟨before, after, cut⟩ := List.append_of_mem asked
  obtain ⟨revision, document, now, answer, writes, rfl, same, -⟩ :=
    course.updated cut (Client.isUpdate_iff.2 puts)
  obtain ⟨begins, -⟩ := List.cons.inj cut
  exact ⟨revision, document, now, answer, writes, begins, same⟩

/-- The state that a reader creates has the key that the operation addresses. -/
theorem key_of_reader {consultation : Consultation}
    (reads : operation.consultation? = some consultation) :
    consultation.state.keyIn consultation.space = operation.key := by
  cases operation with
  | ensure | read =>
    obtain rfl := Option.some.inj reads
    rfl
  | write | setPhase | ask => contradiction

/-- A call has the key that the operation addresses, or is the update of a document that was
answered first and has the key of this document. -/
theorem Course.key_of_mem {first asked : Exchange} {rest : List Exchange}
    (course : operation.Course (first :: rest) outcome) (there : asked ∈ first :: rest) :
    asked.request.key = operation.key ∨
      ∃ (revision : Revision) (document : Resource revision.key.kind),
        Client.method asked.request = .put ∧ operation.revision? = some revision ∧
          first = revision.gets (.ok document) ∧
            asked.request.key = document.keyIn revision.key.space := by
  cases method : Client.method asked.request with
  | get =>
    obtain ⟨call, answer, rfl, own⟩ := course.owns asked there
    obtain rfl := own method
    exact .inl rfl
  | post =>
    obtain ⟨consultation, answer, reads, rfl⟩ := course.created_of_mem there method
    exact .inl (key_of_reader reads)
  | put =>
    obtain ⟨revision, document, now, answer, writes, begins, rfl⟩ :=
      course.updated_of_mem there method
    exact .inr ⟨revision, document, rfl, writes, begins, revise_keyIn writes now document _⟩

end Operation

end HealthLedger.State
