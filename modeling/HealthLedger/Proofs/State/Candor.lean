import HealthLedger.Proofs.State.Course

/-!
# What an operation tells of failures

An operation neither hides a failure of the store nor makes one up (`Operation.tells_failures`).
It stops at the first call that fails and tells that failure, with two exceptions. A reader that
has not found its state creates it, and one that finds it created by someone else goes on as if
it had created the state itself. Whatever the store answers, at most one call writes, and it
writes the empty state of a reader or what a writer makes of the document that it got.
-/

namespace HealthLedger.Store

/-- The failure in an answer. -/
def Answer.error? {kind : Document.Kind} : Answer kind → Option Error
  | .ok _ => none
  | .error error => some error

/-- An answer with a failure. -/
theorem Answer.error?_eq_some {kind : Document.Kind} {answer : Answer kind} {error : Error} :
    answer.error? = some error ↔ answer = .error error := by
  cases answer <;> simp [error?]

namespace Exchange

/-- The failure that a call was answered with. -/
def error? (exchange : Exchange) : Option Error := exchange.answer.error?

/-- A create was answered that there is such a document already. -/
def FindsTaken (exchange : Exchange) : Prop :=
  exchange.request.isCreate ∧ ∃ error, exchange.error? = some error ∧ error.isAlreadyExists

end Exchange

end HealthLedger.Store

namespace HealthLedger.State

open Document (Kind)
open Store (Call Answer Error ReadStep Exchange Repository Clock World)

/-- The failure of a store that an outcome tells of. -/
def Outcome.error? : Outcome → Option Error
  | .ensured (.error error) => some error
  | .details (.error error) => some error.source
  | .document (.error error) => some error
  | _ => none

/-- The failure in an answer. -/
theorem Outcome.document_error? {kind : Kind} (answer : Answer kind) :
    (Outcome.document answer).error? = answer.error? := by
  cases answer <;> rfl

namespace Operation

/-- What an operation comes to with a failure: one that reads details names the step in which the
store failed, and the others pass the failure on. -/
def failure (step : ReadStep) (error : Error) : Operation → Outcome
  | .ensure _ _ _ => .ensured (.error error)
  | .read rawName space _ => .details (.error ⟨step, Name.sanitize rawName, space, error⟩)
  | .write _ _ _ _ => .document (.error error : Answer .checkState)
  | .setPhase _ _ _ => .document (.error error : Answer .checkJob)
  | @ask kind _ => .document (.error error : Answer kind)

/-- The step of an operation that its last call belongs to: making sure that the state exists
begins with a call and ends with that or with a create. -/
def lastStep (before : List Exchange) (last : Exchange) : ReadStep :=
  if before.isEmpty || last.request.isCreate then .existence else .fetch

/-- The operation is to make sure that a state exists and nothing else. -/
def OnlyEnsures : Operation → Prop
  | .ensure _ _ _ => True
  | _ => False

/-- What a reader still asks once it is sure that the state exists: nothing, or the state if it is
to read the details. -/
def StillAsks : Operation → List Exchange → Prop
  | .ensure _ _ _, rest => rest = []
  | .read rawName space workload, rest =>
    ∃ answer, rest = [Consultation.gets ⟨Name.sanitize rawName, space, workload⟩ answer]
  | _, _ => False

/-- The operation neither hides a failure nor makes one up. -/
structure Candid (operation : Operation) (exchanges : List Exchange) (outcome : Outcome) :
    Prop where
  /-- At most one call writes. -/
  writes : exchanges.countP (fun exchange => exchange.request.isWrite) ≤ 1
  /-- Nothing is asked after a failure, except by a reader that has not found its state, or finds
  it created by someone else. -/
  stops : ∀ {before rest : List Exchange} {exchange next : Exchange} {error : Error},
    exchanges = before ++ exchange :: next :: rest → exchange.error? = some error →
      ∃ consultation, operation.consultation? = some consultation ∧
        (before = [] ∧ exchange = consultation.gets (.error error) ∧ error.isNotFound ∨
          exchange = consultation.creates (.error error) ∧ error.isAlreadyExists)
  /-- A reader that has not found its state creates it. -/
  creates : ∀ {consultation : Consultation} {error : Error} {rest : List Exchange},
    operation.consultation? = some consultation →
      exchanges = consultation.gets (.error error) :: rest → error.isNotFound →
        ∃ answer after, rest = consultation.creates answer :: after
  /-- A state that someone else has created is as good as one that the reader has created. -/
  agrees : ∀ {before rest : List Exchange} {exchange : Exchange},
    exchanges = before ++ exchange :: rest → exchange.request.isCreate →
      (exchange.error? = none ∨ exchange.FindsTaken) → operation.StillAsks rest
  /-- A create is made by a reader whose first call has not found its state. -/
  created : ∀ {before rest : List Exchange} {exchange : Exchange},
    exchanges = before ++ exchange :: rest → exchange.request.isCreate →
      ∃ consultation missing answer, operation.consultation? = some consultation ∧
        Error.isNotFound missing ∧ before = [consultation.gets (.error missing)] ∧
          exchange = consultation.creates answer
  /-- An update is made by a writer, with what it makes of the document that its first call has
  returned, of which only what the operation knows of the specification has changed. -/
  updated : ∀ {before rest : List Exchange} {exchange : Exchange},
    exchanges = before ++ exchange :: rest → exchange.request.isUpdate →
      ∃ revision document now answer, operation.revision? = some revision ∧
        before = [revision.gets (.ok document)] ∧
          exchange = revision.puts now document answer ∧
            document.Respecified (revision.revise now document)
  /-- The operation succeeds if its last call does, or if it is only to make sure that the state
  exists and someone else has created it. Otherwise it tells the failure of its last call. -/
  ends : ∃ before last, exchanges = before ++ [last] ∧
    (outcome.error? = none ↔
      last.error? = none ∨ operation.OnlyEnsures ∧ last.FindsTaken) ∧
    ∀ {error : Error}, outcome.error? = some error →
      last.error? = some error ∧ outcome = operation.failure (lastStep before last) error

end Operation

section Cuts

variable {α : Type} {first second place : α} {list before rest : List α}

/-- A list of one is cut at its only place. -/
private theorem cut_one (cut : [first] = before ++ place :: rest) :
    before = [] ∧ place = first ∧ rest = [] := by
  cases before with
  | nil =>
    obtain ⟨rfl, rfl⟩ := List.cons.inj cut
    exact ⟨rfl, rfl, rfl⟩
  | cons head tail => simp at cut

/-- A list of two is cut at one of them. -/
private theorem cut_two (cut : [first, second] = before ++ place :: rest) :
    (before = [] ∧ place = first ∧ rest = [second]) ∨
      before = [first] ∧ place = second ∧ rest = [] := by
  cases before with
  | nil =>
    obtain ⟨rfl, rfl⟩ := List.cons.inj cut
    exact .inl ⟨rfl, rfl, rfl⟩
  | cons head tail =>
    obtain ⟨rfl, others⟩ := List.cons.inj cut
    obtain ⟨rfl, rfl, rfl⟩ := cut_one others
    exact .inr ⟨rfl, rfl, rfl⟩

/-- A list is cut at its last place or before. -/
private theorem cut_concat (cut : list ++ [first] = before ++ place :: rest) :
    (before = list ∧ place = first ∧ rest = []) ∨
      ∃ between, rest = between ++ [first] ∧ list = before ++ place :: between := by
  obtain ⟨more, rfl, last⟩ | ⟨more, rfl, last⟩ := List.append_eq_append_iff.1 cut
  · obtain ⟨rfl, rfl, rfl⟩ := cut_one last
    exact .inl ⟨List.append_nil _, rfl, rfl⟩
  · cases more with
    | nil =>
      obtain ⟨rfl, rfl⟩ := List.cons.inj last
      exact .inl ⟨(List.append_nil _).symm, rfl, rfl⟩
    | cons head between =>
      obtain ⟨rfl, rfl⟩ := List.cons.inj last
      exact .inr ⟨between, rfl, rfl⟩

end Cuts

namespace Assurance

variable {consultation : Consultation} {exchanges before rest : List Exchange}
  {exchange next : Exchange} {result : Except Error Unit} {error : Error}

/-- At most one call writes. -/
theorem writes (assurance : Assurance consultation exchanges result) :
    exchanges.countP (fun exchange => exchange.request.isWrite) ≤ 1 := by
  obtain ⟨answer, rfl, -⟩ | ⟨missing, answer, rfl, -⟩ := assurance.asks
  · exact Nat.zero_le 1
  · exact Nat.le_refl 1

/-- No call is an update. -/
theorem not_update (assurance : Assurance consultation exchanges result)
    (asked : exchange ∈ exchanges) : exchange.request.isUpdate = false := by
  obtain ⟨answer, rfl, -⟩ | ⟨missing, answer, rfl, -⟩ := assurance.asks
  · obtain rfl := List.mem_singleton.1 asked
    rfl
  · obtain rfl | last := List.mem_cons.1 asked
    · rfl
    · obtain rfl := List.mem_singleton.1 last
      rfl

/-- A create is the last call, and the get before it has found nothing. -/
theorem of_isCreate (assurance : Assurance consultation exchanges result)
    (cut : exchanges = before ++ exchange :: rest) (isCreate : exchange.request.isCreate) :
    rest = [] ∧ ∃ missing answer, Error.isNotFound missing ∧
      before = [consultation.gets (.error missing)] ∧ exchange = consultation.creates answer := by
  obtain ⟨answer, rfl, -⟩ | ⟨missing, answer, rfl, absent⟩ := assurance.asks
  · obtain ⟨rfl, rfl, rfl⟩ := cut_one cut
    contradiction
  · obtain ⟨rfl, rfl, rfl⟩ | ⟨rfl, rfl, rfl⟩ := cut_two cut
    · contradiction
    · exact ⟨rfl, missing, answer, absent, rfl, rfl⟩

/-- Only a get that has found nothing is followed by another call. -/
theorem of_next (assurance : Assurance consultation exchanges result)
    (cut : exchanges = before ++ exchange :: next :: rest) :
    ∃ missing, Error.isNotFound missing ∧ before = [] ∧
      exchange = consultation.gets (.error missing) := by
  obtain ⟨answer, rfl, -⟩ | ⟨missing, answer, rfl, absent⟩ := assurance.asks
  · obtain ⟨-, -, none⟩ := cut_one cut
    contradiction
  · obtain ⟨rfl, rfl, -⟩ | ⟨-, -, none⟩ := cut_two cut
    · exact ⟨missing, absent, rfl, rfl⟩
    · contradiction

/-- A get that has found nothing is followed by a create. -/
theorem of_missing (assurance : Assurance consultation exchanges result)
    (begins : exchanges = consultation.gets (.error error) :: rest) (absent : error.isNotFound) :
    ∃ answer, rest = [consultation.creates answer] := by
  obtain ⟨answer, rfl, other⟩ | ⟨missing, answer, rfl, -⟩ := assurance.asks
  · obtain ⟨same, -⟩ := List.cons.inj begins
    have failed : answer = .error error := by simpa [Consultation.gets, Exchange.alone] using same
    rw [other error failed] at absent
    contradiction
  · obtain ⟨-, rfl⟩ := List.cons.inj begins
    exact ⟨answer, rfl⟩

/-- It is sure that the state exists if the last call succeeds or someone else has created the
state, and otherwise the failure of the last call is told. -/
theorem ends (assurance : Assurance consultation exchanges result) :
    ∃ before last, exchanges = before ++ [last] ∧ (before = [] ∨ last.request.isCreate) ∧
      (result = .ok () ↔ last.error? = none ∨ last.FindsTaken) ∧
        ∀ error, result = .error error → last.error? = some error := by
  cases assurance with
  | found state =>
    exact ⟨[], _, rfl, .inl rfl, iff_of_true rfl (.inl rfl), fun _ failed => nomatch failed⟩
  | unknown other =>
    refine ⟨[], _, rfl, .inl rfl, iff_of_false nofun ?_, fun error failed => ?_⟩
    · rintro (none | ⟨isCreate, -⟩) <;> contradiction
    · obtain rfl := Except.error.inj failed
      rfl
  | created absent state =>
    exact ⟨[_], _, rfl, .inr rfl, iff_of_true rfl (.inl rfl), fun _ failed => nomatch failed⟩
  | taken absent present =>
    exact ⟨[_], _, rfl, .inr rfl, iff_of_true rfl (.inr ⟨rfl, _, rfl, present⟩),
      fun _ failed => nomatch failed⟩
  | refused absent other =>
    refine ⟨[_], _, rfl, .inr rfl, iff_of_false nofun ?_, fun error failed => ?_⟩
    · rintro (none | ⟨-, error, told, taken⟩)
      · contradiction
      · obtain rfl := Option.some.inj told
        rw [other] at taken
        contradiction
    · obtain rfl := Except.error.inj failed
      rfl

end Assurance

namespace Operation

variable {operation : Operation} {exchanges before rest : List Exchange}
  {exchange next : Exchange} {outcome : Outcome} {error : Error}

/-- A writer passes a failure on. -/
theorem failure_of_revision {revision : Revision} (writes : operation.revision? = some revision)
    (step : ReadStep) (error : Error) :
    operation.failure step error = .document (.error error : Answer revision.key.kind) := by
  cases operation with
  | write | setPhase =>
    obtain rfl := Option.some.inj writes
    rfl
  | ensure | read | ask => contradiction

/-- A call that belongs to making sure that the state exists. -/
theorem lastStep_existence {last : Exchange} (first : before = [] ∨ last.request.isCreate) :
    lastStep before last = .existence := by
  obtain rfl | isCreate := first
  · rfl
  · simp [lastStep, isCreate]

/-- An operation that repeats what its last call was answered ends as it should. -/
theorem ends_of_same {last : Exchange} (same : outcome.error? = last.error?)
    (other : ¬(operation.OnlyEnsures ∧ last.FindsTaken))
    (tells : ∀ error, outcome.error? = some error →
      outcome = operation.failure (lastStep before last) error) :
    (outcome.error? = none ↔ last.error? = none ∨ operation.OnlyEnsures ∧ last.FindsTaken) ∧
      ∀ {error : Error}, outcome.error? = some error →
        last.error? = some error ∧ outcome = operation.failure (lastStep before last) error := by
  refine ⟨?_, fun told => ⟨same ▸ told, tells _ told⟩⟩
  rw [same, or_iff_left other]

namespace Course

/-- At most one call writes. -/
theorem writes (course : operation.Course exchanges outcome) :
    exchanges.countP (fun exchange => exchange.request.isWrite) ≤ 1 := by
  obtain ⟨consultation, assured, result, -, assurance, rfl | ⟨-, answer, rfl⟩⟩ |
    ⟨revision, -, ⟨error, rfl⟩ | ⟨document, now, answer, rfl⟩⟩ := course.asks
  · exact assurance.writes
  · rw [List.countP_append]
    exact assurance.writes
  · exact Nat.zero_le 1
  · exact Nat.le_refl 1

/-- A create is made by a reader whose first call has not found its state. -/
theorem created (course : operation.Course exchanges outcome)
    (cut : exchanges = before ++ exchange :: rest) (isCreate : exchange.request.isCreate) :
    ∃ consultation missing answer, operation.consultation? = some consultation ∧
      Error.isNotFound missing ∧ before = [consultation.gets (.error missing)] ∧
        exchange = consultation.creates answer := by
  obtain ⟨consultation, assured, result, reads, assurance, rfl | ⟨-, answer, rfl⟩⟩ |
    ⟨revision, -, ⟨error, rfl⟩ | ⟨document, now, answer, rfl⟩⟩ := course.asks
  · obtain ⟨-, missing, answer, rest⟩ := assurance.of_isCreate cut isCreate
    exact ⟨consultation, missing, answer, reads, rest⟩
  · obtain ⟨-, rfl, -⟩ | ⟨between, -, earlier⟩ := cut_concat cut
    · contradiction
    · obtain ⟨-, missing, answer, rest⟩ := assurance.of_isCreate earlier isCreate
      exact ⟨consultation, missing, answer, reads, rest⟩
  · obtain ⟨-, rfl, -⟩ := cut_one cut
    contradiction
  · obtain ⟨-, rfl, -⟩ | ⟨-, rfl, -⟩ := cut_two cut <;> contradiction

/-- An update is made by a writer that has got its document. -/
theorem updated (course : operation.Course exchanges outcome)
    (cut : exchanges = before ++ exchange :: rest) (isUpdate : exchange.request.isUpdate) :
    ∃ revision document now answer, operation.revision? = some revision ∧
      before = [revision.gets (.ok document)] ∧ exchange = revision.puts now document answer ∧
        document.Respecified (revision.revise now document) := by
  obtain ⟨consultation, assured, result, reads, assurance, rfl | ⟨-, answer, rfl⟩⟩ |
    ⟨revision, writes, ⟨error, rfl⟩ | ⟨document, now, answer, rfl⟩⟩ := course.asks
  · rw [assurance.not_update (by simp [cut])] at isUpdate
    contradiction
  · obtain ⟨-, rfl, -⟩ | ⟨between, -, earlier⟩ := cut_concat cut
    · contradiction
    · rw [assurance.not_update (by simp [earlier])] at isUpdate
      contradiction
  · obtain ⟨-, rfl, -⟩ := cut_one cut
    contradiction
  · obtain ⟨-, rfl, -⟩ | ⟨rfl, rfl, -⟩ := cut_two cut
    · contradiction
    · exact ⟨revision, document, now, answer, writes, rfl, rfl,
        revise_respecified writes now document⟩

/-- After a failure only a reader asks anything more: if it has not found its state, or finds it
created by someone else. -/
theorem stops (course : operation.Course exchanges outcome)
    (cut : exchanges = before ++ exchange :: next :: rest) (failed : exchange.error? = some error) :
    ∃ consultation, operation.consultation? = some consultation ∧
      (before = [] ∧ exchange = consultation.gets (.error error) ∧ error.isNotFound ∨
        exchange = consultation.creates (.error error) ∧ error.isAlreadyExists) := by
  obtain ⟨consultation, assured, result, reads, assurance, rfl | ⟨rfl, answer, rfl⟩⟩ |
    ⟨revision, -, ⟨error, rfl⟩ | ⟨document, now, answer, rfl⟩⟩ := course.asks
  · obtain ⟨missing, absent, rfl, rfl⟩ := assurance.of_next cut
    obtain rfl := Option.some.inj failed
    exact ⟨consultation, reads, .inl ⟨rfl, rfl, absent⟩⟩
  · refine ⟨consultation, reads, ?_⟩
    obtain ⟨-, -, none⟩ | ⟨between, -, earlier⟩ := cut_concat cut
    · contradiction
    · cases between with
      | nil =>
        -- The last call has failed and it is sure nevertheless that the state exists.
        obtain ⟨first, last, same, -, sure, -⟩ := assurance.ends
        obtain ⟨-, same⟩ := List.append_inj' (earlier.symm.trans same) rfl
        obtain rfl := List.head_eq_of_cons_eq same
        obtain none | ⟨isCreate, told, toldAlso, taken⟩ := sure.1 rfl
        · rw [failed] at none
          contradiction
        · obtain rfl := Option.some.inj (failed.symm.trans toldAlso)
          obtain ⟨-, missing, answer, -, -, rfl⟩ := assurance.of_isCreate earlier isCreate
          have answered := Answer.error?_eq_some.1 failed
          exact .inr ⟨congrArg consultation.creates answered, taken⟩
      | cons head tail =>
        obtain ⟨missing, absent, rfl, rfl⟩ := assurance.of_next earlier
        obtain rfl := Option.some.inj failed
        exact .inl ⟨rfl, rfl, absent⟩
  · obtain ⟨-, -, none⟩ := cut_one cut
    contradiction
  · obtain ⟨-, rfl, -⟩ | ⟨-, -, none⟩ := cut_two cut <;> contradiction

/-- A reader that has not found its state creates it. -/
theorem creates (course : operation.Course exchanges outcome) {consultation : Consultation}
    (reads : operation.consultation? = some consultation)
    (begins : exchanges = consultation.gets (.error error) :: rest) (absent : error.isNotFound) :
    ∃ answer after, rest = consultation.creates answer :: after := by
  obtain ⟨other, assured, result, readsAlso, assurance, rfl | ⟨-, answer, rfl⟩⟩ |
    ⟨revision, writes, -⟩ := course.asks
  · obtain rfl := Option.some.inj (reads.symm.trans readsAlso)
    obtain ⟨answer, rfl⟩ := assurance.of_missing begins absent
    exact ⟨answer, [], rfl⟩
  · obtain rfl := Option.some.inj (reads.symm.trans readsAlso)
    have cut := begins.trans (List.nil_append _).symm
    obtain ⟨rfl, -, -⟩ | ⟨between, rfl, earlier⟩ := cut_concat cut
    · obtain ⟨first, last, none, -⟩ := assurance.ends
      simp at none
    · obtain ⟨created, rfl⟩ := assurance.of_missing earlier absent
      exact ⟨created, _, rfl⟩
  · rw [consultation?_of_revision writes] at reads
    contradiction

/-- A reader that has created its state, or finds it created by someone else, is sure that it
exists. -/
theorem agrees (course : operation.Course exchanges outcome)
    (cut : exchanges = before ++ exchange :: rest) (isCreate : exchange.request.isCreate)
    (there : exchange.error? = none ∨ exchange.FindsTaken) : operation.StillAsks rest := by
  cases course with
  | ensured assurance => exact (assurance.of_isCreate cut isCreate).1
  | unsure assurance =>
    obtain ⟨rfl, -⟩ := assurance.of_isCreate cut isCreate
    obtain ⟨first, last, same, -, sure, -⟩ := assurance.ends
    obtain ⟨-, same⟩ := List.append_inj' (cut.symm.trans same) rfl
    obtain rfl := List.head_eq_of_cons_eq same
    exact nomatch sure.2 there
  | unread assurance error | read assurance state =>
    obtain ⟨-, rfl, -⟩ | ⟨between, rfl, earlier⟩ := cut_concat cut
    · contradiction
    · obtain ⟨rfl, -⟩ := assurance.of_isCreate earlier isCreate
      exact ⟨_, rfl⟩
  | unchanged writes error =>
    obtain ⟨-, rfl, -⟩ := cut_one cut
    contradiction
  | revised writes document now answer =>
    obtain ⟨-, rfl, -⟩ | ⟨-, rfl, -⟩ := cut_two cut <;> contradiction

/-- The outcome is that of the last call. -/
theorem ends (course : operation.Course exchanges outcome) :
    ∃ before last, exchanges = before ++ [last] ∧
      (outcome.error? = none ↔
        last.error? = none ∨ operation.OnlyEnsures ∧ last.FindsTaken) ∧
      ∀ {error : Error}, outcome.error? = some error →
        last.error? = some error ∧ outcome = operation.failure (lastStep before last) error := by
  cases course with
  | @ensured rawName space workload exchanges result assurance =>
    obtain ⟨before, last, rfl, -, sure, fails⟩ := assurance.ends
    refine ⟨before, last, rfl, ?_⟩
    cases result with
    | ok done => exact ⟨iff_of_true rfl ((sure.1 rfl).imp_right (⟨trivial, ·⟩)), nofun⟩
    | error error =>
      refine ⟨iff_of_false nofun fun there => ?_, fun told => ?_⟩
      · exact nomatch sure.2 (there.imp_right And.right)
      · obtain rfl := Option.some.inj told
        exact ⟨fails _ rfl, rfl⟩
  | unsure assurance =>
    obtain ⟨before, last, rfl, first, -, fails⟩ := assurance.ends
    refine ⟨before, last, rfl, ends_of_same (fails _ rfl).symm (fun only => only.1) ?_⟩
    intro error told
    obtain rfl := Option.some.inj told
    rw [lastStep_existence first]
    rfl
  | unread assurance error =>
    obtain ⟨before, last, rfl, -⟩ := assurance.ends
    refine ⟨_, _, rfl, ends_of_same rfl (fun only => only.1) fun error told => ?_⟩
    obtain rfl := Option.some.inj told
    simp [lastStep, failure, Consultation.gets, Exchange.alone, Call.isCreate]
  | read assurance state => exact ⟨_, _, rfl, ends_of_same rfl (fun only => only.1) nofun⟩
  | unchanged writes error =>
    refine ⟨[], _, rfl, ends_of_same rfl (fun only => nomatch only.2.1) fun error told => ?_⟩
    obtain rfl := Option.some.inj told
    exact (failure_of_revision writes _ _).symm
  | revised writes document now answer =>
    have same := Outcome.document_error? answer
    refine ⟨[_], _, rfl, ends_of_same same (fun only => nomatch only.2.1) fun error told => ?_⟩
    have answered := Answer.error?_eq_some.1 (same.symm.trans told)
    rw [failure_of_revision writes, answered]

/-- The course of an operation is candid. -/
theorem candid (course : operation.Course exchanges outcome) :
    operation.Candid exchanges outcome where
  writes := course.writes
  stops := course.stops
  creates := course.creates
  agrees := course.agrees
  created := course.created
  updated := course.updated
  ends := course.ends

end Course

/-- Whatever the store answers, an operation on states and jobs neither hides a failure nor makes
one up. -/
theorem tells_failures {σ : Type} (repository : Repository σ) (clock : Clock) (world : World σ)
    (onStates : operation.OnStates) :
    operation.Candid (operation.program.transcript repository clock world)
      (operation.program.run repository clock world).1 :=
  (course repository clock world onStates).candid

/-- A store in which nothing is found and everything was created by someone else. -/
def elusive : Repository Unit where
  perform call state :=
    (.error ⟨call.key, if call.isCreate then .alreadyExists else .notFound⟩, state)

/-- A state that is never found is asked for, created and asked for again, and it is told that it
was not found. -/
theorem elusive_state_not_read :
    let ping : Consultation := ⟨Name.sanitize "Ping", "kube", .check⟩
    (read "Ping" "kube" .check).OnStates ∧
      Candid (read "Ping" "kube" .check)
        [ping.gets (.error ⟨ping.key, .notFound⟩), ping.creates (.error ⟨ping.key, .alreadyExists⟩),
          ping.gets (.error ⟨ping.key, .notFound⟩)]
        (.details (.error ⟨.fetch, ping.name, ping.space, ⟨ping.key, .notFound⟩⟩)) :=
  have onStates : (read "Ping" "kube" .check).OnStates := trivial
  ⟨onStates, tells_failures elusive (fun _ => default) { state := () } onStates⟩

end Operation

end HealthLedger.State
