import HealthLedger.Proofs.Store.History
import HealthLedger.State

/-!
# Operations of clients

An operation is what a client asks for: one of the four operations on states and jobs, or a
single call. A writer gets a document and updates it with what it makes of it
(`Operation.program_of_revision`), which differs in nothing but what the operation knows of the
specification (`Operation.revise_respecified`). A reader gets a state and creates it if it is not
found (`Operation.program_of_consultation`). As long as operations are given sound answers, they
make only calls that are sound and their own (`Operation.keeps`).
-/

namespace HealthLedger.Document

/-- What no operation knows of a specification, which is all of a job but its phase, is the same in
two of them. -/
def Kind.SameRest : (kind : Kind) → kind.Spec → kind.Spec → Prop
  | .checkState, _, _ => True
  | .checkJob, first, second => JobSpec.extra first = JobSpec.extra second

/-- The rest of a specification is the same in itself. -/
theorem Kind.SameRest.refl {kind : Kind} (spec : kind.Spec) : kind.SameRest spec spec := by
  cases kind with
  | checkState => trivial
  | checkJob => rfl

/-- The same rest in two steps. -/
theorem Kind.SameRest.trans {kind : Kind} {first second third : kind.Spec}
    (same : kind.SameRest first second) (again : kind.SameRest second third) :
    kind.SameRest first third := by
  cases kind with
  | checkState => trivial
  | checkJob => exact Eq.trans same again

/-- Of a document nothing but what an operation knows of the specification has changed. -/
structure Resource.Respecified {kind : Kind} (document later : Resource kind) : Prop where
  /-- The metadata are the same. -/
  metadata : later.metadata = document.metadata
  /-- The other members are the same. -/
  extra : later.extra = document.extra
  /-- The rest of the specification is the same. -/
  rest : kind.SameRest document.spec later.spec

/-- The specification has changed in two steps. -/
theorem Resource.Respecified.trans {kind : Kind} {first second third : Resource kind}
    (changed : first.Respecified second) (again : second.Respecified third) :
    first.Respecified third :=
  ⟨again.metadata.trans changed.metadata, again.extra.trans changed.extra,
    changed.rest.trans again.rest⟩

end HealthLedger.Document

namespace HealthLedger.State

open Document (Kind Key Workload Details Phase Resource CheckState CheckJob JobSpec Vocabulary)
open Store (Program Call Answer Error ReadError Protocol Pool Memory Clock)

/-- What a client asks for. -/
inductive Operation where
  /-- Make sure that a state exists. -/
  | ensure (name space : String) (workload : Workload)
  /-- Read the details of a check. -/
  | read (name space : String) (workload : Workload)
  /-- Write the details of a check. -/
  | write (pod name space : String) (details : Details)
  /-- Change the phase of a job. -/
  | setPhase (name space : String) (phase : Phase)
  /-- Make a single call. -/
  | ask {kind : Kind} (call : Call kind)

/-- What an operation comes to. -/
inductive Outcome where
  /-- A state exists, or why that is not sure. -/
  | ensured (result : Except Error Unit)
  /-- The details of a check, or why they were not read. -/
  | details (result : Except ReadError Details)
  /-- The answer to the last call. -/
  | document {kind : Kind} (answer : Answer kind)

namespace Operation

/-- The program of an operation. -/
def program : Operation → Program Outcome
  | .ensure name space workload => .ensured <$> State.ensure name space workload
  | .read name space workload => .details <$> State.read name space workload
  | .write pod name space details => .document <$> State.write pod name space details
  | .setPhase name space phase => .document <$> State.setPhase name space phase
  | .ask call => .document <$> Program.perform call

/-- What the operation brings in stays within a vocabulary, and a document was decoded. -/
def Admitted (vocabulary : Vocabulary) : Operation → Prop
  | .setPhase _ _ phase => vocabulary.phases phase
  | .ask call => call.Decoded vocabulary
  | _ => True

/-- The operation is not a single call. -/
def OnStates : Operation → Prop
  | .ask _ => False
  | _ => True

end Operation

/-- What a writer makes of the state it found. -/
def revisedState (pod : String) (details : Details) (now : Time.Instant) (state : CheckState) :
    CheckState :=
  let details : Details := { details with authoritativePod := pod, lastRun := some now }
  { state with spec := details }

/-- What a job becomes in another phase. -/
def revisedJob (phase : Phase) (job : CheckJob) : CheckJob :=
  let spec : JobSpec := job.spec
  let spec : JobSpec := { spec with phase }
  { job with spec }

/-- What a writer addresses, and what it makes of the document it finds there. -/
structure Revision where
  /-- The key. -/
  key : Key
  /-- The document to write, from the time it is made at and the document that was found. -/
  revise : Time.Instant → Resource key.kind → Resource key.kind

/-- What a reader addresses, and the workload of the state it creates there. -/
structure Consultation where
  /-- The name of the state. -/
  name : String
  /-- The namespace of the state. -/
  space : String
  /-- The workload. -/
  workload : Workload

/-- The key a reader addresses. -/
def Consultation.key (consultation : Consultation) : Key :=
  ⟨.checkState, consultation.name, consultation.space⟩

/-- The state a reader creates. -/
def Consultation.state (consultation : Consultation) : CheckState :=
  emptyState consultation.name consultation.space consultation.workload

namespace Operation

/-- What an operation writes, if it is a writer. -/
def revision? : Operation → Option Revision
  | .write pod name space details =>
    some ⟨⟨.checkState, Name.sanitize name, space⟩, revisedState pod details⟩
  | .setPhase name space phase => some ⟨⟨.checkJob, name, space⟩, fun _ => revisedJob phase⟩
  | _ => none

/-- What an operation reads, if it is a reader. -/
def consultation? : Operation → Option Consultation
  | .ensure name space workload => some ⟨Name.sanitize name, space, workload⟩
  | .read name space workload => some ⟨Name.sanitize name, space, workload⟩
  | _ => none

/-- A writer leaves the metadata as it found them. -/
theorem revise_metadata {operation : Operation} {revision : Revision}
    (writes : operation.revision? = some revision) (now : Time.Instant)
    (document : Resource revision.key.kind) :
    (revision.revise now document).metadata = document.metadata := by
  cases operation with
  | write | setPhase =>
    obtain rfl := Option.some.inj writes
    rfl
  | ensure | read | ask => contradiction

/-- A writer leaves a document under its key. -/
theorem revise_keyIn {operation : Operation} {revision : Revision}
    (writes : operation.revision? = some revision) (now : Time.Instant)
    (document : Resource revision.key.kind) (space : String) :
    (revision.revise now document).keyIn space = document.keyIn space := by
  rw [Resource.keyIn, Resource.name, revise_metadata writes]
  rfl

/-- A writer carries the version that it has found. -/
theorem revise_version {operation : Operation} {revision : Revision}
    (writes : operation.revision? = some revision) (now : Time.Instant)
    (document : Resource revision.key.kind) :
    (revision.revise now document).version = document.version := by
  rw [Resource.version, revise_metadata writes]
  rfl

end Operation

/-- A writer changes nothing of a document but what it knows of the specification. -/
theorem Operation.revise_respecified {operation : Operation} {revision : Revision}
    (writes : operation.revision? = some revision) (now : Time.Instant)
    (document : Resource revision.key.kind) :
    document.Respecified (revision.revise now document) := by
  cases operation with
  | write =>
    obtain rfl := Option.some.inj writes
    exact ⟨rfl, rfl, trivial⟩
  | setPhase =>
    obtain rfl := Option.some.inj writes
    exact ⟨rfl, rfl, rfl⟩
  | ensure | read | ask => contradiction

section Protocols

variable {protocol : Protocol}

/-- Creating a state takes the create of an empty state. -/
theorem createState_keeps {name space : String} {workload : Workload}
    (create : protocol.calls (.create (emptyState name space workload) space)) :
    (createState name space workload).Keeps protocol := by
  refine ⟨create, fun answer _ => ?_⟩
  cases answer with
  | ok state => trivial
  | error error =>
    show Program.Keeps protocol (if error.isAlreadyExists then .tell _ (.done _) else .done _)
    split <;> trivial

/-- Making sure that a state exists takes a get and the create of an empty state. -/
theorem ensure_keeps {rawName space : String} {workload : Workload}
    (get : protocol.calls (.get (Name.sanitize rawName) space : Call .checkState))
    (create : protocol.calls
      (.create (emptyState (Name.sanitize rawName) space workload) space)) :
    (ensure rawName space workload).Keeps protocol := by
  refine ⟨get, fun answer _ => ?_⟩
  cases answer with
  | ok state => trivial
  | error error =>
    show Program.Keeps protocol (if error.isNotFound then createState _ _ _ else .done _)
    split
    · exact createState_keeps create
    · trivial

/-- Reading a state takes nothing else. -/
theorem read_keeps {rawName space : String} {workload : Workload}
    (get : protocol.calls (.get (Name.sanitize rawName) space : Call .checkState))
    (create : protocol.calls
      (.create (emptyState (Name.sanitize rawName) space workload) space)) :
    (read rawName space workload).Keeps protocol := by
  refine (ensure_keeps get create).bind fun result => ?_
  cases result with
  | error source => trivial
  | ok done =>
    refine ⟨get, fun answer _ => ?_⟩
    cases answer <;> trivial

/-- Writing details takes a get and an update with the revised state. -/
theorem write_keeps {pod rawName space : String} {details : Details}
    (get : protocol.calls (.get (Name.sanitize rawName) space : Call .checkState))
    (update : ∀ state now, protocol.answers (.ok state) → protocol.times now →
      protocol.calls (.update (revisedState pod details now state) space)) :
    (write pod rawName space details).Keeps protocol := by
  refine ⟨get, fun answer expected => ?_⟩
  cases answer with
  | error error => trivial
  | ok state =>
    refine fun now shown => ⟨update state now expected shown, fun answer _ => ?_⟩
    cases answer with
    | ok state => trivial
    | error error =>
      show Program.Keeps protocol (if error.isConflict then .tell _ (.done _) else .done _)
      split <;> trivial

/-- Changing a phase takes a get and an update with the revised job. -/
theorem setPhase_keeps {name space : String} {phase : Phase}
    (get : protocol.calls (.get name space : Call .checkJob))
    (update : ∀ job, protocol.answers (.ok job) →
      protocol.calls (.update (revisedJob phase job) space)) :
    (setPhase name space phase).Keeps protocol := by
  refine ⟨get, fun answer expected => ?_⟩
  cases answer with
  | error error => trivial
  | ok job =>
    refine ⟨update job expected, fun answer _ => ?_⟩
    cases answer with
    | ok job => trivial
    | error error =>
      show Program.Keeps protocol (if error.isConflict then .tell _ (.done _) else .done _)
      split <;> trivial

end Protocols

variable {vocabulary : Vocabulary}

/-- The empty state of a check is sound. -/
theorem emptyState_sound (name space : String) (workload : Workload) :
    (emptyState name space workload).Sound vocabulary :=
  ⟨⟨Json.Object.empty_avoids _, trivial, Json.Object.empty_avoids _⟩,
    fun _ written => nomatch written⟩

/-- A new job without a phase is decoded from its own value. -/
theorem newJob_decoded (name space : String) :
    (Resource.new name space JobSpec.empty : CheckJob).Decoded := by
  have sound : (Resource.new name space JobSpec.empty : CheckJob).Sound
      (.ofTokens fun _ => False) :=
    ⟨⟨Json.Object.empty_avoids _, Json.Object.empty_avoids _, Json.Object.empty_avoids _⟩, rfl⟩
  exact sound.decoded fun phase spoken => spoken

/-- A sound state is revised to a sound one. -/
theorem revisedState_sound {state : CheckState} (sound : state.Sound vocabulary) (pod : String)
    (details : Details) {now : Time.Instant} (shown : vocabulary.instants now) :
    (revisedState pod details now state).Sound vocabulary := by
  refine ⟨⟨sound.framed.metadata, trivial, sound.framed.extra⟩, fun instant written => ?_⟩
  obtain rfl := Option.some.inj written
  exact shown

/-- A sound job is revised to a sound one. -/
theorem revisedJob_sound {job : CheckJob} (sound : job.Sound vocabulary) {phase : Phase}
    (spoken : vocabulary.phases phase) : (revisedJob phase job).Sound vocabulary :=
  ⟨⟨sound.framed.metadata, sound.framed.spec, sound.framed.extra⟩, spoken⟩

/-- A writer makes a sound document of a sound one. -/
theorem Operation.revise_sound {operation : Operation} {revision : Revision}
    (writes : operation.revision? = some revision) (admitted : operation.Admitted vocabulary)
    {document : Resource revision.key.kind} (sound : document.Sound vocabulary)
    {now : Time.Instant} (shown : vocabulary.instants now) :
    (revision.revise now document).Sound vocabulary := by
  cases operation with
  | write =>
    obtain rfl := Option.some.inj writes
    exact revisedState_sound sound _ _ shown
  | setPhase =>
    obtain rfl := Option.some.inj writes
    exact revisedJob_sound sound admitted
  | ensure | read | ask => contradiction

/-- The calls of an operation: a reader creates nothing but its state and updates nothing, and a
writer creates nothing. -/
inductive Operation.Makes (operation : Operation) : {kind : Kind} → Call kind → Prop
  /-- A get. -/
  | get {kind : Kind} (name space : String) : operation.Makes (.get name space : Call kind)
  /-- The create of a reader. -/
  | create {consultation : Consultation} (reads : operation.consultation? = some consultation) :
    operation.Makes (.create consultation.state consultation.space)
  /-- The update of a writer. -/
  | update {revision : Revision} (writes : operation.revision? = some revision)
    (document : Resource revision.key.kind) :
    operation.Makes (.update document revision.key.space)
  /-- A single call. -/
  | ask {kind : Kind} {call : Call kind} (alone : operation = .ask call) : operation.Makes call

/-- The protocols of some operations by their numbers: sound calls of the operation, and sound
answers. -/
def protocols (vocabulary : Vocabulary) (operations : List Operation) (number : Nat) : Protocol :=
  { Protocol.sound vocabulary with
    calls := fun call => call.Sound vocabulary ∧
      ∃ operation, operations[number]? = some operation ∧ operation.Makes call }

/-- The program of an operation makes sound calls of the operation as long as it is given sound
answers. -/
theorem Operation.keeps {operations : List Operation} {number : Nat} {operation : Operation}
    (entered : operations[number]? = some operation)
    (admitted : operation.Admitted vocabulary) :
    operation.program.Keeps (protocols vocabulary operations number) := by
  have done (outcome : Outcome) :
      (Program.done outcome).Keeps (protocols vocabulary operations number) := trivial
  have get {kind : Kind} (name space : String) :
      (protocols vocabulary operations number).calls (.get name space : Call kind) :=
    ⟨trivial, operation, entered, .get name space⟩
  cases operation with
  | ensure name space workload =>
    have reads : (ensure name space workload).consultation? =
      some ⟨Name.sanitize name, space, workload⟩ := rfl
    have create : (emptyState (Name.sanitize name) space workload).Sound vocabulary :=
      emptyState_sound _ _ _
    exact (ensure_keeps (get _ _) ⟨create, _, entered, .create reads⟩).bind fun _ => done _
  | read name space workload =>
    have reads : (read name space workload).consultation? =
      some ⟨Name.sanitize name, space, workload⟩ := rfl
    have create : (emptyState (Name.sanitize name) space workload).Sound vocabulary :=
      emptyState_sound _ _ _
    exact (read_keeps (get _ _) ⟨create, _, entered, .create reads⟩).bind fun _ => done _
  | write pod name space details =>
    have writes : (write pod name space details).revision? =
      some ⟨⟨.checkState, Name.sanitize name, space⟩, revisedState pod details⟩ := rfl
    refine (write_keeps (get _ _) fun state now sound shown => ?_).bind fun _ => done _
    exact ⟨revisedState_sound (sound state rfl) pod details shown, _, entered, .update writes _⟩
  | setPhase name space phase =>
    have writes : (setPhase name space phase).revision? =
      some ⟨⟨.checkJob, name, space⟩, fun _ => revisedJob phase⟩ := rfl
    refine (setPhase_keeps (get _ _) fun job sound => ?_).bind fun _ => done _
    exact ⟨revisedJob_sound (sound job rfl) admitted, _, entered, .update writes _⟩
  | ask call => exact ⟨⟨admitted.sound, _, entered, .ask rfl⟩, fun _ _ => done _⟩

namespace Operation

variable {σ : Type}

/-- A writer gets a document and updates it with what it makes of it. What it comes to is the
answer to the update. -/
theorem program_of_revision {operation : Operation} {revision : Revision}
    (writes : operation.revision? = some revision) (clock : Clock) (begin : Store.World σ) :
    ∃ resume : Answer revision.key.kind → Program Outcome,
      (operation.program.settle clock begin).1 =
        .call (.get revision.key.name revision.key.space) resume ∧
      ∀ (document : Resource revision.key.kind) (world : Store.World σ),
        ∃ last : Answer revision.key.kind → Program Outcome,
          ((resume (.ok document)).settle clock world).1 =
            .call (.update (revision.revise (clock world.ticks) document) revision.key.space)
              last ∧
          ∀ (answer : Answer revision.key.kind) (world : Store.World σ),
            ((last answer).settle clock world).1 = .done (.document answer) := by
  cases operation with
  | write | setPhase =>
    obtain rfl := Option.some.inj writes
    refine ⟨_, rfl, fun document world => ⟨_, rfl, fun answer world => ?_⟩⟩
    cases answer with
    | ok document => rfl
    | error error =>
      show (Program.settle clock
        (Program.bind (if error.isConflict then .tell _ (.done _) else .done _) _) world).1 = _
      split <;> rfl
  | ensure | read | ask => contradiction

/-- A writer that finds a document leaves the store as the update with what it makes of the
document does. -/
theorem run_of_revision {σ : Type} {operation : Operation} {revision : Revision}
    (writes : operation.revision? = some revision) (repository : Store.Repository σ)
    (clock : Clock) (world : Store.World σ) {found : Resource revision.key.kind} {middle : σ}
    (got : repository.perform (.get revision.key.name revision.key.space) world.state =
      (.ok found, middle)) :
    (operation.program.run repository clock world).2.state =
      (repository.perform (.update (revision.revise (clock world.ticks) found)
        revision.key.space) middle).2 := by
  obtain ⟨resume, waits, goesOn⟩ := program_of_revision writes clock world
  have begins : (operation.program.settle clock world).2 = world := by
    cases operation with
    | write | setPhase => rfl
    | ensure | read | ask => contradiction
  obtain ⟨last, turns, ends⟩ := goesOn found { world with state := middle }
  rw [Program.run_of_settle_call waits, got, begins, Program.run_of_settle_call turns,
    Program.run_of_settle_done (ends _ _)]

/-- What a reader does once it is sure that the state exists: it is done, or it gets the state and
comes to its details. -/
def Assured (clock : Clock) : Operation → Program Outcome → Prop
  | .ensure _ _ _, program => program = .done (.ensured (.ok ()))
  | .read name space _, program =>
    ∃ resume : Answer .checkState → Program Outcome,
      program = .call (.get (Name.sanitize name) space) resume ∧
        ∀ (state : CheckState) (world : Store.World Memory),
          ((resume (.ok state)).settle clock world).1 = .done (.details (.ok state.spec))
  | _, _ => False

/-- The reader waits at the create of its state, and is sure that the state exists if it has
created it or someone else has. -/
def Creating (clock : Clock) (operation : Operation) (consultation : Consultation)
    (program : Program Outcome) : Prop :=
  ∃ last : Answer .checkState → Program Outcome,
    program = .call (.create consultation.state consultation.space) last ∧
    (∀ (state : CheckState) (world : Store.World Memory),
      operation.Assured clock ((last (.ok state)).settle clock world).1) ∧
    ∀ (error : Error) (world : Store.World Memory), error.isAlreadyExists →
      operation.Assured clock ((last (.error error)).settle clock world).1

/-- A reader gets its state, and creates it if nothing is found. -/
theorem program_of_consultation {operation : Operation} {consultation : Consultation}
    (reads : operation.consultation? = some consultation) (clock : Clock)
    (begin : Store.World Memory) :
    ∃ resume : Answer .checkState → Program Outcome,
      (operation.program.settle clock begin).1 =
        .call (.get consultation.name consultation.space) resume ∧
      (∀ (state : CheckState) (world : Store.World Memory),
        operation.Assured clock ((resume (.ok state)).settle clock world).1) ∧
      ∀ (error : Error) (world : Store.World Memory), error.isNotFound →
        operation.Creating clock consultation ((resume (.error error)).settle clock world).1 := by
  cases operation with
  | ensure name space workload =>
    obtain rfl := Option.some.inj reads
    refine ⟨_, rfl, fun state world => rfl, fun error world missing => ?_⟩
    show Creating clock _ _ (Program.settle clock
      (Program.bind (if error.isNotFound then createState _ _ _ else .done _) _) world).1
    rw [if_pos missing]
    refine ⟨_, rfl, fun state world => rfl, fun error world taken => ?_⟩
    show (Program.settle clock
      (Program.bind (if error.isAlreadyExists then .tell _ (.done _) else .done _) _) world).1 = _
    rw [if_pos taken]
    rfl
  | read name space workload =>
    obtain rfl := Option.some.inj reads
    refine ⟨_, rfl, fun state world => ⟨_, rfl, fun state world => rfl⟩,
      fun error world missing => ?_⟩
    show Creating clock _ _ (Program.settle clock
      (Program.bind (Program.bind (if error.isNotFound then createState _ _ _ else .done _) _) _)
      world).1
    rw [if_pos missing]
    refine ⟨_, rfl, fun state world => ⟨_, rfl, fun state world => rfl⟩,
      fun error world taken => ?_⟩
    show ∃ resume, (Program.settle clock
      (Program.bind (Program.bind
        (if error.isAlreadyExists then .tell _ (.done _) else .done _) _) _) world).1 = _ ∧ _
    rw [if_pos taken]
    exact ⟨_, rfl, fun state world => rfl⟩
  | write | setPhase | ask => contradiction

end Operation

end HealthLedger.State
