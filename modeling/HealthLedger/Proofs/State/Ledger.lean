import HealthLedger.Proofs.State.Sequential

/-!
# Operations on states and jobs as operations on a ledger

A ledger has one register of details for every namespace and sanitized name, and one job for
every namespace and name as it is given. Versions, identities and JSON do not occur in it. A
store in memory that holds submitted jobs and nothing else answers every sequence of operations
on states and jobs as a ledger does, but for the version and the identity of the documents that
writers are given (`operations_refine_ledger`).
-/

namespace HealthLedger.Document.Resource

variable {kind : Kind}

/-- A document without the marks of a store. -/
def plain (document : Resource kind) : Resource kind :=
  { document with metadata := { document.metadata with version := none, uid := none } }

/-- A document in a namespace, without the marks of a store. -/
def placed (document : Resource kind) (space : String) : Resource kind :=
  { document.plain with metadata := { document.plain.metadata with space } }

/-- Placing a document where it is only removes the marks. -/
theorem placed_eq_plain {document : Resource kind} {space : String}
    (same : document.metadata.space = space) : document.placed space = document.plain := by
  rw [placed, ← same]
  rfl

end HealthLedger.Document.Resource

namespace HealthLedger.State

open Document (Kind Key Workload Details Phase Resource CheckState CheckJob JobSpec Vocabulary)
open Store (Program Call Answer Error Memory Stored World Clock)

/-- An operation that is not a single call. -/
abbrev StateOperation := { operation : Operation // operation.OnStates }

/-- What an operation comes to, without the marks of a store. -/
def Outcome.plain : Outcome → Outcome
  | .document answer => .document (answer.map Resource.plain)
  | outcome => outcome

/-- The registers of details and the jobs, by namespaces and names. -/
structure Ledger where
  /-- The details in a register. -/
  details : String → String → Option Details
  /-- A job without the marks of a store. -/
  jobs : String → String → Option CheckJob
  /-- How often the clock was read. -/
  ticks : Nat

namespace Ledger

/-- The ledger with nothing in it. -/
def empty : Ledger := ⟨fun _ _ => none, fun _ _ => none, 0⟩

/-- Put details into a register. -/
def setDetails (ledger : Ledger) (space name : String) (details : Details) : Ledger :=
  { ledger with details := fun otherSpace other =>
      if otherSpace = space ∧ other = name then some details
      else ledger.details otherSpace other }

/-- Put a job in its place. -/
def setJob (ledger : Ledger) (space name : String) (job : CheckJob) : Ledger :=
  { ledger with jobs := fun otherSpace other =>
      if otherSpace = space ∧ other = name then some job else ledger.jobs otherSpace other }

/-- Put empty details into a register that has none. -/
def enroll (ledger : Ledger) (space name : String) (workload : Workload) : Ledger :=
  match ledger.details space name with
  | some _ => ledger
  | none => ledger.setDetails space name (.new workload)

/-- What an operation comes to, and the ledger behind it. -/
def perform (clock : Clock) (ledger : Ledger) : StateOperation → Outcome × Ledger
  | ⟨.ensure rawName space workload, _⟩ =>
    (.ensured (.ok ()), ledger.enroll space (Name.sanitize rawName) workload)
  | ⟨.read rawName space workload, _⟩ =>
    (.details (.ok ((ledger.details space (Name.sanitize rawName)).getD (.new workload))),
      ledger.enroll space (Name.sanitize rawName) workload)
  | ⟨.write pod rawName space details, _⟩ =>
    let name := Name.sanitize rawName
    match ledger.details space name with
    | none =>
      let missing : Answer .checkState := .error ⟨⟨.checkState, name, space⟩, .notFound⟩
      (.document missing, ledger)
    | some _ =>
      let details : Details :=
        { details with authoritativePod := pod, lastRun := some (clock ledger.ticks) }
      let written : Answer .checkState := .ok (.new name space details)
      (.document written,
        { ledger.setDetails space name details with ticks := ledger.ticks + 1 })
  | ⟨.setPhase name space phase, _⟩ =>
    match ledger.jobs space name with
    | none =>
      let missing : Answer .checkJob := .error ⟨⟨.checkJob, name, space⟩, .notFound⟩
      (.document missing, ledger)
    | some job =>
      let spec : JobSpec := job.spec
      let changed : CheckJob := { job with spec := { spec with phase } }
      let written : Answer .checkJob := .ok changed
      (.document written, ledger.setJob space name changed)
  | ⟨.ask _, onStates⟩ => onStates.elim

/-- What operations come to one after the other, and the ledger behind them. -/
def performAll (clock : Clock) (ledger : Ledger) : List StateOperation → List Outcome × Ledger
  | [] => ([], ledger)
  | operation :: rest =>
    let (outcome, ledger) := ledger.perform clock operation
    let (outcomes, ledger) := ledger.performAll clock rest
    (outcome :: outcomes, ledger)

/-- The document of a key. -/
def document? (ledger : Ledger) : (key : Key) → Option (Resource key.kind)
  | ⟨.checkState, name, space⟩ => (ledger.details space name).map (.new name space)
  | ⟨.checkJob, name, space⟩ => ledger.jobs space name

/-- The document of a register. -/
theorem document?_of_details {ledger : Ledger} {space name : String} {details : Details}
    (held : ledger.details space name = some details) :
    ledger.document? ⟨.checkState, name, space⟩ = some (.new name space details) := by
  rw [document?, held]
  rfl

/-- A register without details has no document. -/
theorem document?_of_no_details {ledger : Ledger} {space name : String}
    (none : ledger.details space name = none) :
    ledger.document? ⟨.checkState, name, space⟩ = .none := by
  rw [document?, none]
  rfl

/-- The register that details are put into. -/
theorem document?_setDetails_self (ledger : Ledger) (space name : String) (details : Details) :
    (ledger.setDetails space name details).document? ⟨.checkState, name, space⟩ =
      some (.new name space details) := by
  simp [document?, setDetails]

/-- Putting details into a register changes nothing else. -/
theorem document?_setDetails_of_ne (ledger : Ledger) (space name : String) (details : Details)
    {key : Key} (other : key ≠ ⟨.checkState, name, space⟩) :
    (ledger.setDetails space name details).document? key = ledger.document? key := by
  obtain ⟨kind, otherName, otherSpace⟩ := key
  cases kind with
  | checkJob => rfl
  | checkState =>
    have different : ¬ (otherSpace = space ∧ otherName = name) := by
      rintro ⟨rfl, rfl⟩
      exact other rfl
    simp [document?, setDetails, different]

/-- Reading the clock changes no document. -/
theorem document?_ticks (ledger : Ledger) (ticks : Nat) (key : Key) :
    ({ ledger with ticks } : Ledger).document? key = ledger.document? key := by
  obtain ⟨kind, name, space⟩ := key
  cases kind <;> rfl

/-- The place that a job is put in. -/
theorem document?_setJob_self (ledger : Ledger) (space name : String) (job : CheckJob) :
    (ledger.setJob space name job).document? ⟨.checkJob, name, space⟩ = some job := by
  simp [document?, setJob]

/-- Putting a job in its place changes nothing else. -/
theorem document?_setJob_of_ne (ledger : Ledger) (space name : String) (job : CheckJob)
    {key : Key} (other : key ≠ ⟨.checkJob, name, space⟩) :
    (ledger.setJob space name job).document? key = ledger.document? key := by
  obtain ⟨kind, otherName, otherSpace⟩ := key
  cases kind with
  | checkState => rfl
  | checkJob =>
    have different : ¬ (otherSpace = space ∧ otherName = name) := by
      rintro ⟨rfl, rfl⟩
      exact other rfl
    simp [document?, setJob, different]

end Ledger

/-- A sound store holds the documents of a ledger and nothing else. -/
structure Ledger.Reflects (vocabulary : Vocabulary) (ledger : Ledger) (memory : Memory) :
    Prop where
  /-- The store is sound. -/
  sound : memory.Sound vocabulary
  /-- What is not in the ledger is not in the store. -/
  absent : ∀ key, ledger.document? key = none → memory.find? key = none
  /-- What is in the ledger is in the store. -/
  present : ∀ key document, ledger.document? key = some document →
    ∃ stored shown, memory.find? key = some stored ∧ stored.Shows vocabulary key shown ∧
      shown.plain = document

/-- What an operation on a store comes to is what the ledger says, and so is what the store holds
afterwards. -/
def Ledger.Answered (uids : Nat → String) (clock : Clock) (vocabulary : Vocabulary)
    (ledger : Ledger) (memory : Memory) (operation : StateOperation) : Prop :=
  ∃ outcome after,
    operation.1.program.Runs (Memory.repository uids) clock memory ledger.ticks outcome after
      (ledger.perform clock operation).2.ticks ∧
    outcome.plain = (ledger.perform clock operation).1 ∧
    (ledger.perform clock operation).2.Reflects vocabulary after

namespace Ledger.Reflects

variable {uids : Nat → String} {vocabulary : Vocabulary} {ledger next : Ledger} {memory : Memory}
  {kind : Kind}

/-- A get of what is not in the ledger finds nothing. -/
theorem get_absent (reflects : ledger.Reflects vocabulary memory) (uids : Nat → String)
    {name space : String} (nothing : ledger.document? ⟨kind, name, space⟩ = none) :
    (Memory.repository uids).perform (.get name space : Call kind) memory =
      (.error ⟨⟨kind, name, space⟩, .notFound⟩, memory) := by
  have missing := reflects.absent _ nothing
  simp only [Memory.repository, Memory.perform, missing]
  rfl

/-- A get of what is in the ledger finds it, with the marks of the store. -/
theorem get_present (reflects : ledger.Reflects vocabulary memory)
    (legible : vocabulary.Legible kind) (uids : Nat → String) {name space : String}
    {document : Resource kind} (there : ledger.document? ⟨kind, name, space⟩ = some document) :
    ∃ (stored : Stored) (shown : Resource kind),
      memory.find? ⟨kind, name, space⟩ = some stored ∧
      stored.Shows vocabulary ⟨kind, name, space⟩ shown ∧ shown.plain = document ∧
      (Memory.repository uids).perform (.get name space : Call kind) memory =
        (.ok shown, memory) := by
  obtain ⟨stored, shown, found, shows_, same⟩ := reflects.present _ _ there
  have read := shows_.sound.ofValue_toValue legible
  refine ⟨stored, shown, found, shows_, same, ?_⟩
  simp only [Memory.repository, Memory.perform, found, Document.Decoder.decodeValue,
    shows_.body, read, mapError_ok]

/-- Writing a document leaves a store behind that holds what a ledger with the document says. -/
theorem write (reflects : ledger.Reflects vocabulary memory) {document : Resource kind}
    (sound : document.Sound vocabulary) {name : String} (named : document.name = name)
    (space uid : String)
    (there : next.document? ⟨kind, name, space⟩ = some (document.placed space))
    (elsewhere : ∀ key, key ≠ ⟨kind, name, space⟩ →
      next.document? key = ledger.document? key) :
    next.Reflects vocabulary (memory.write document space uid).2 := by
  subst named
  refine ⟨reflects.sound.write sound space uid, fun key nothing => ?_,
    fun key held found => ?_⟩
  · by_cases same : key = document.keyIn space
    · subst same
      have missing := nothing.symm.trans there
      contradiction
    · rw [Memory.find?_write, if_neg same]
      exact reflects.absent key ((elsewhere key same).symm.trans nothing)
  · by_cases same : key = document.keyIn space
    · subst same
      obtain rfl := Option.some.inj (there.symm.trans found)
      exact ⟨_, _, Memory.find?_write_self memory document space uid,
        Memory.stamp_shows sound space _ uid, rfl⟩
    · rw [Memory.find?_write, if_neg same]
      exact reflects.present key held ((elsewhere key same).symm.trans found)

/-- A create of what is not in the ledger is answered with the stamped document. -/
theorem create_absent (reflects : ledger.Reflects vocabulary memory) (uids : Nat → String)
    {document : Resource kind} {space : String} (fresh : document.version = none)
    (nothing : ledger.document? (document.keyIn space) = none) :
    (Memory.repository uids).perform (.create document space) memory =
      (.ok (Memory.stamp document space (memory.lastVersion + 1) (uids (memory.lastVersion + 1))),
        (memory.write document space (uids (memory.lastVersion + 1))).2) := by
  have missing := reflects.absent _ nothing
  simp only [Memory.repository, Memory.perform, fresh, missing]
  rfl

/-- An update of an entry with its version is answered with the stamped document. -/
theorem update_present (uids : Nat → String) {document : Resource kind} {space : String}
    {stored : Stored} (found : memory.find? (document.keyIn space) = some stored)
    (current : document.version = some (toString stored.version)) :
    (Memory.repository uids).perform (.update document space) memory =
      (.ok (Memory.stamp document space (memory.lastVersion + 1) stored.uid),
        (memory.write document space stored.uid).2) := by
  simp only [Memory.repository, Memory.perform, found, if_pos current]
  rfl

/-- Making sure that a state exists is enrolling. -/
theorem ensure (reflects : ledger.Reflects vocabulary memory)
    (legible : vocabulary.Legible .checkState) (uids : Nat → String) (clock : Clock)
    (rawName space : String) (workload : Workload) (ticks : Nat) :
    ∃ after, (State.ensure rawName space workload).Runs (Memory.repository uids) clock memory ticks
        (.ok ()) after ticks ∧
      (ledger.enroll space (Name.sanitize rawName) workload).Reflects vocabulary after := by
  unfold enroll
  split
  · next details held =>
    obtain ⟨stored, shown, -, -, -, got⟩ :=
      reflects.get_present legible uids (document?_of_details held)
    exact ⟨memory, ensure_runs_found got, reflects⟩
  · next none =>
    have nothing := document?_of_no_details none
    have fresh : (emptyState (Name.sanitize rawName) space workload).version = .none := rfl
    have created := reflects.create_absent uids fresh nothing
    refine ⟨_, ensure_runs_created (reflects.get_absent uids nothing) rfl created, ?_⟩
    exact reflects.write (emptyState_sound _ _ _) rfl space _
      (document?_setDetails_self _ _ _ _) fun key other => document?_setDetails_of_ne _ _ _ _ other

/-- What is enrolled has the details of its register, or empty ones. -/
theorem details_enroll (ledger : Ledger) (space name : String) (workload : Workload) :
    (ledger.enroll space name workload).details space name =
      some ((ledger.details space name).getD (.new workload)) := by
  unfold enroll
  cases held : ledger.details space name with
  | some details => exact held
  | none => simp [setDetails]

/-- Enrolling does not read the clock. -/
theorem ticks_enroll (ledger : Ledger) (space name : String) (workload : Workload) :
    (ledger.enroll space name workload).ticks = ledger.ticks := by
  unfold enroll
  split <;> rfl

/-- Putting back a document as it was shown, but for its specification, leaves a store behind that
holds what a ledger with the document says. -/
theorem update_shown (reflects : ledger.Reflects vocabulary memory) (uids : Nat → String)
    {name space : String} {stored : Stored} {shown revised : Resource kind}
    (found : memory.find? ⟨kind, name, space⟩ = some stored)
    (shows_ : stored.Shows vocabulary ⟨kind, name, space⟩ shown)
    (sound : revised.Sound vocabulary) (marked : revised.metadata = shown.metadata)
    (there : next.document? ⟨kind, name, space⟩ = some (revised.placed space))
    (elsewhere : ∀ key, key ≠ ⟨kind, name, space⟩ →
      next.document? key = ledger.document? key) :
    ∃ written after,
      (Memory.repository uids).perform (.update revised space) memory = (.ok written, after) ∧
      written.plain = revised.placed space ∧ next.Reflects vocabulary after := by
  have named : revised.name = name := (congrArg (·.name) marked).trans shows_.name
  have key : revised.keyIn space = ⟨kind, name, space⟩ := by rw [← named]; rfl
  have current : revised.version = some (toString stored.version) :=
    (congrArg (·.version) marked).trans shows_.version
  have updated := update_present uids (key ▸ found) current
  exact ⟨_, _, updated, rfl, reflects.write sound named space _ there elsewhere⟩

/-- Making sure that a state exists is answered as the ledger says. -/
theorem answered_ensure (reflects : ledger.Reflects vocabulary memory)
    (legible : vocabulary.Legible .checkState) (uids : Nat → String) (clock : Clock)
    (rawName space : String) (workload : Workload) :
    Answered uids clock vocabulary ledger memory ⟨.ensure rawName space workload, trivial⟩ := by
  obtain ⟨after, runs, reflects⟩ :=
    reflects.ensure legible uids clock rawName space workload ledger.ticks
  refine ⟨.ensured (.ok ()), after, ?_, rfl, reflects⟩
  show Program.Runs _ _ _ _ _ _ _ (ledger.enroll _ _ _).ticks
  rw [ticks_enroll]
  exact runs.bind .done

/-- A reader is answered as the ledger says. -/
theorem answered_read (reflects : ledger.Reflects vocabulary memory)
    (legible : vocabulary.Legible .checkState) (uids : Nat → String) (clock : Clock)
    (rawName space : String) (workload : Workload) :
    Answered uids clock vocabulary ledger memory ⟨.read rawName space workload, trivial⟩ := by
  obtain ⟨after, ensured, reflects⟩ :=
    reflects.ensure legible uids clock rawName space workload ledger.ticks
  have held := document?_of_details (details_enroll ledger space (Name.sanitize rawName) workload)
  obtain ⟨stored, shown, -, -, same, got⟩ := reflects.get_present legible uids held
  have spec : shown.spec = (ledger.details space (Name.sanitize rawName)).getD (.new workload) :=
    congrArg Resource.spec same
  refine ⟨.details (.ok shown.spec), after, ?_, ?_, reflects⟩
  · show Program.Runs _ _ _ _ _ _ _ (ledger.enroll _ _ _).ticks
    rw [ticks_enroll]
    exact (read_runs ensured got).bind .done
  · rw [spec]
    rfl

/-- A writer is answered as the ledger says. -/
theorem answered_write (reflects : ledger.Reflects vocabulary memory)
    (legible : vocabulary.Legible .checkState) (uids : Nat → String) {clock : Clock}
    (time : vocabulary.instants (clock ledger.ticks)) (pod rawName space : String)
    (details : Details) :
    Answered uids clock vocabulary ledger memory ⟨.write pod rawName space details, trivial⟩ := by
  cases held : ledger.details space (Name.sanitize rawName) with
  | none =>
    have got := reflects.get_absent uids (document?_of_no_details held)
    simp only [Answered, perform, held]
    exact ⟨_, memory, (write_runs_missing got).bind .done, rfl, reflects⟩
  | some before =>
    obtain ⟨stored, shown, found, shows_, same, got⟩ :=
      reflects.get_present legible uids (document?_of_details held)
    let now := clock ledger.ticks
    let written : Details := { details with authoritativePod := pod, lastRun := some now }
    have placed : (revisedState pod details now shown).placed space =
        .new (Name.sanitize rawName) space written := by
      show (revisedState pod details now shown.plain).placed space = _
      rw [same]
      rfl
    let next : Ledger := ledger.setDetails space (Name.sanitize rawName) written
    have there : Ledger.document? { next with ticks := ledger.ticks + 1 }
        ⟨.checkState, Name.sanitize rawName, space⟩ =
          some ((revisedState pod details now shown).placed space) := by
      rw [placed]
      exact document?_setDetails_self _ _ _ _
    obtain ⟨document, after, updated, plain, reflects⟩ :=
      reflects.update_shown uids found shows_ (revisedState_sound shows_.sound pod details time)
        rfl there fun key other => by
          rw [document?_ticks]
          exact document?_setDetails_of_ne _ _ _ _ other
    simp only [Answered, perform, held]
    refine ⟨_, after, (write_runs_found got updated).bind .done, ?_, reflects⟩
    show Outcome.document (.ok document.plain : Answer .checkState) = _
    rw [plain, placed]

/-- Setting a phase is answered as the ledger says. -/
theorem answered_setPhase (reflects : ledger.Reflects vocabulary memory)
    (legible : vocabulary.Legible .checkJob) (uids : Nat → String) (clock : Clock)
    (name space : String) {phase : Phase} (admitted : vocabulary.phases phase) :
    Answered uids clock vocabulary ledger memory ⟨.setPhase name space phase, trivial⟩ := by
  cases held : ledger.jobs space name with
  | none =>
    have nothing : ledger.document? ⟨.checkJob, name, space⟩ = none := held
    have got := reflects.get_absent uids nothing
    simp only [Answered, perform, held]
    exact ⟨_, memory, (setPhase_runs_missing got).bind .done, rfl, reflects⟩
  | some job =>
    have there : ledger.document? ⟨.checkJob, name, space⟩ = some job := held
    obtain ⟨stored, shown, found, shows_, same, got⟩ := reflects.get_present legible uids there
    have placed : (revisedJob phase shown).placed space = revisedJob phase job := by
      have inSpace : (revisedJob phase shown).metadata.space = space := shows_.space
      rw [Resource.placed_eq_plain inSpace, ← same]
      rfl
    have sound : Resource.Sound vocabulary (revisedJob phase shown) :=
      revisedJob_sound shows_.sound admitted
    have changed : (ledger.setJob space name (revisedJob phase job)).document?
        ⟨.checkJob, name, space⟩ = some ((revisedJob phase shown).placed space) := by
      rw [placed]
      exact document?_setJob_self _ _ _ _
    obtain ⟨document, after, updated, plain, reflects⟩ :=
      reflects.update_shown uids found shows_ sound rfl changed
        fun key other => document?_setJob_of_ne _ _ _ _ other
    simp only [Answered, perform, held]
    refine ⟨_, after, (setPhase_runs_found got updated).bind .done, ?_, reflects⟩
    show Outcome.document (.ok document.plain : Answer .checkJob) = _
    rw [plain, placed]
    rfl

/-- A store answers an operation as the ledger does, and holds afterwards what the ledger says. -/
theorem operation (reflects : ledger.Reflects vocabulary memory)
    (legible : ∀ kind, vocabulary.Legible kind) (uids : Nat → String) {clock : Clock}
    (times : ∀ count, vocabulary.instants (clock count)) (operation : StateOperation)
    (admitted : operation.1.Admitted vocabulary) :
    Answered uids clock vocabulary ledger memory operation := by
  obtain ⟨operation, onStates⟩ := operation
  cases operation with
  | ensure rawName space workload =>
    exact reflects.answered_ensure (legible _) uids clock rawName space workload
  | read rawName space workload =>
    exact reflects.answered_read (legible _) uids clock rawName space workload
  | write pod rawName space details =>
    exact reflects.answered_write (legible _) uids (times _) pod rawName space details
  | setPhase name space phase =>
    exact reflects.answered_setPhase (legible _) uids clock name space admitted
  | ask call => exact onStates.elim

end Ledger.Reflects

/-- What operations come to that run one after the other, and the world behind them. -/
def runAll (uids : Nat → String) (clock : Clock) :
    List StateOperation → World Memory → List Outcome × World Memory
  | [], world => ([], world)
  | operation :: rest, world =>
    let (outcome, world) := operation.1.program.run (Memory.repository uids) clock world
    let (outcomes, world) := runAll uids clock rest world
    (outcome :: outcomes, world)

/-- A store answers operations as the ledger does, and holds afterwards what the ledger says. -/
theorem Ledger.Reflects.runAll {vocabulary : Vocabulary} {ledger : Ledger} {memory : Memory}
    (reflects : ledger.Reflects vocabulary memory) (legible : ∀ kind, vocabulary.Legible kind)
    (uids : Nat → String) {clock : Clock} (times : ∀ count, vocabulary.instants (clock count))
    (operations : List StateOperation)
    (admitted : ∀ operation ∈ operations, operation.1.Admitted vocabulary)
    (events : List Log.Event) :
    (runAll uids clock operations ⟨memory, ledger.ticks, events⟩).1.map Outcome.plain =
        (ledger.performAll clock operations).1 ∧
      (ledger.performAll clock operations).2.Reflects vocabulary
        (runAll uids clock operations ⟨memory, ledger.ticks, events⟩).2.state := by
  induction operations generalizing ledger memory events with
  | nil => exact ⟨rfl, reflects⟩
  | cons operation rest ih =>
    obtain ⟨first, others⟩ := List.forall_mem_cons.1 admitted
    obtain ⟨outcome, after, runs, same, next⟩ :=
      reflects.operation legible uids times operation first
    obtain ⟨told, run⟩ := runs.run_eq events
    obtain ⟨outcomes, last⟩ := ih next others told
    simp only [State.runAll, run, performAll, List.map_cons, same, outcomes]
    exact ⟨trivial, last⟩

end HealthLedger.State
