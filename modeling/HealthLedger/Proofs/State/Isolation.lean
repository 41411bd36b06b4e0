import HealthLedger.Proofs.State.Contest
import HealthLedger.Proofs.Store.Twins
import HealthLedger.Proofs.Time.Reading

/-!
# Operations on one key beside those on others

Every operation on a state or a job addresses one key (`Operation.key`). Take away from a contest
the operations on all other keys and leave the rest of the schedule as it is: every operation on
the key comes to the same, and the same is stored under the key at the end, but for versions,
identities and times (`keys_do_not_interfere`). The two runs give different versions to the same
writes, so they are compared through a pairing of versions that grows with every write of the key
(`Mirrors.turn_own`); turns of other operations are seen by one of the two runs only
(`Mirrors.turn_other`).
-/

namespace HealthLedger.State

open Document (Kind Key Workload Details Phase Resource CheckState CheckJob JobSpec Vocabulary)
open Store (Program Call Answer Error ReadError Protocol Pool Memory Clock Pairing Sources World)
open Store.Pairing (Alike Results)

/-- The key an operation addresses. -/
def Operation.key : Operation → Key
  | .ensure name space _ => ⟨.checkState, Name.sanitize name, space⟩
  | .read name space _ => ⟨.checkState, Name.sanitize name, space⟩
  | .write _ name space _ => ⟨.checkState, Name.sanitize name, space⟩
  | .setPhase name space _ => ⟨.checkJob, name, space⟩
  | .ask call => call.key

/-- The operations on a key. -/
def onKey (key : Key) (operations : List Operation) : List Operation :=
  operations.filter (·.key = key)

/-- The number of an operation on a key among the operations on this key. -/
def rank (key : Key) (operations : List Operation) (number : Nat) : Nat :=
  (operations.take number).countP (·.key = key)

/-- The turns of the operations on a key, by their numbers among these. -/
def turnsOn (key : Key) (operations : List Operation) (schedule : List Nat) : List Nat :=
  schedule.filterMap fun number => operations[number]?.bind fun operation =>
    if operation.key = key then some (rank key operations number) else none

variable {key : Key} {operations : List Operation} {number other : Nat} {operation : Operation}

/-- An operation on a key has its rank among the operations on the key. -/
theorem onKey_rank (entered : operations[number]? = some operation) (own : operation.key = key) :
    (onKey key operations)[rank key operations number]? = some operation := by
  induction operations generalizing number with
  | nil => contradiction
  | cons first rest ih =>
    cases number with
    | zero =>
      obtain rfl : first = operation := by simpa using entered
      simp [onKey, rank, own]
    | succ number =>
      have found := ih (by simpa using entered)
      by_cases here : first.key = key
      · simpa [onKey, rank, here] using found
      · simpa [onKey, rank, here] using found

/-- Later operations on a key have greater ranks. -/
theorem rank_lt (entered : operations[number]? = some operation) (own : operation.key = key)
    (less : number < other) : rank key operations number < rank key operations other := by
  have next : rank key operations (number + 1) = rank key operations number + 1 := by
    rw [rank, List.take_add_one, entered, List.countP_append]
    simp [rank, own]
  have part : (operations.take (number + 1)).Sublist (operations.take other) :=
    List.take_sublist_take_left less
  have more : rank key operations (number + 1) ≤ rank key operations other := part.countP_le
  omega

/-- Operations on a key have different ranks. -/
theorem rank_ne {rival : Operation} (entered : operations[number]? = some operation)
    (own : operation.key = key) (enteredAgain : operations[other]? = some rival)
    (ownAgain : rival.key = key) (different : number ≠ other) :
    rank key operations number ≠ rank key operations other := by
  rcases Nat.lt_or_gt_of_ne different with less | less
  · exact Nat.ne_of_lt (rank_lt entered own less)
  · exact Nat.ne_of_gt (rank_lt enteredAgain ownAgain less)

/-- What two operations come to is the same but for paired versions, identities and times. -/
inductive TwinOutcomes (pairing : Pairing) : Outcome → Outcome → Prop
  /-- The same about a state that should exist. -/
  | ensured (result : Except Error Unit) :
    TwinOutcomes pairing (.ensured result) (.ensured result)
  /-- Details that differ in the time of the last run. -/
  | details {one other : Except ReadError Details}
    (same : Results pairing.TwinDetails one other) :
    TwinOutcomes pairing (.details one) (.details other)
  /-- Answers that are twins. -/
  | document {kind : Kind} {one other : Answer kind} (same : Results pairing.Twins one other) :
    TwinOutcomes pairing (.document one) (.document other)

variable {pairing : Pairing}

/-- Outcomes are twins with more links. -/
theorem twinOutcomes_monotone : Pairing.Monotone TwinOutcomes := by
  intro pairing more one other grows outcomes
  cases outcomes with
  | ensured result => exact .ensured result
  | details same => exact .details same
  | document same =>
    cases same with
    | error error => exact .document (.error error)
    | ok twins => exact .document (.ok (twins.relink grows))

/-- The empty state of a check is its own twin. -/
theorem emptyState_twins (name space : String) (workload : Workload) :
    pairing.Twins (emptyState name space workload) (emptyState name space workload) where
  framed := by
    have sound : (emptyState name space workload).Sound .all := emptyState_sound _ _ _
    exact sound.framed
  name := rfl
  space := rfl
  version := .none
  uid := .none
  kept := rfl
  spec := ⟨rfl, .inl rfl⟩
  extra := rfl

/-- Twins are revised to twins. -/
theorem revisedState_twins {state twin : CheckState} (twins : pairing.Twins state twin)
    (pod : String) (details : Details) (count other : Nat) :
    pairing.Twins (revisedState pod details (pairing.left.clock count) state)
      (revisedState pod details (pairing.right.clock other) twin) :=
  { twins with
    framed := ⟨twins.framed.metadata, trivial, twins.framed.extra⟩
    spec := ⟨rfl, .inr ⟨count, other, rfl, rfl⟩⟩ }

/-- Twins are twins in another phase. -/
theorem revisedJob_twins {job twin : CheckJob} (twins : pairing.Twins job twin) (phase : Phase) :
    pairing.Twins (revisedJob phase job) (revisedJob phase twin) := by
  have same : job.spec = twin.spec := twins.spec
  refine { twins with framed := ⟨twins.framed.metadata, twins.framed.spec, twins.framed.extra⟩
                      spec := ?_ }
  show (revisedJob phase job).spec = (revisedJob phase twin).spec
  rw [revisedJob, revisedJob, same]

/-- Creating a state is like itself. -/
theorem createState_alike (name space : String) (workload : Workload) :
    Alike (fun _ one other => one = other) pairing (createState name space workload)
      (createState name space workload) := by
  refine .tell (.call (.create (emptyState_twins name space workload) space)
    fun more answer twin grows same => ?_)
  cases same with
  | ok twins => exact .done rfl
  | error error =>
    show Alike _ _ (if error.isAlreadyExists then .tell _ (.done _) else .done _)
      (if error.isAlreadyExists then .tell _ (.done _) else .done _)
    split
    · exact .tell (.done rfl)
    · exact .done rfl

/-- Making sure that a state exists is like itself. -/
theorem ensure_alike (rawName space : String) (workload : Workload) :
    Alike (fun _ one other => one = other) pairing (ensure rawName space workload)
      (ensure rawName space workload) := by
  refine .tell (.call (.get _ space) fun more answer twin grows same => ?_)
  cases same with
  | ok twins => exact .tell (.done rfl)
  | error error =>
    show Alike _ _ (if error.isNotFound then createState _ _ _ else .done _)
      (if error.isNotFound then createState _ _ _ else .done _)
    split
    · exact createState_alike _ space workload
    · exact .done rfl

/-- Reading details is like itself. -/
theorem read_alike (rawName space : String) (workload : Workload) :
    Alike (fun pairing => Results pairing.TwinDetails) pairing (read rawName space workload)
      (read rawName space workload) := by
  refine (ensure_alike rawName space workload).bind fun more one other grows same => ?_
  subst same
  cases one with
  | error source => exact .done (.error _)
  | ok done =>
    refine .tell (.call (.get _ space) fun more answer twin grows same => ?_)
    cases same with
    | error source => exact .done (.error _)
    | ok twins => exact .tell (.done (.ok twins.spec))

/-- Writing details is like itself. -/
theorem write_alike (pod rawName space : String) (details : Details) :
    Alike (fun pairing => Results pairing.Twins) pairing (write pod rawName space details)
      (write pod rawName space details) := by
  refine .call (.get _ space) fun more answer twin grows same => ?_
  cases same with
  | error error => exact .done (.error error)
  | ok twins =>
    refine .now fun count other => .tell ?_
    refine .call (.update (revisedState_twins twins pod details count other) space)
      fun more answer twin grows same => ?_
    cases same with
    | ok twins => exact .done (.ok twins)
    | error error =>
      show Alike _ _ (if error.isConflict then .tell _ (.done _) else .done _)
        (if error.isConflict then .tell _ (.done _) else .done _)
      split
      · exact .tell (.done (.error error))
      · exact .done (.error error)

/-- Changing a phase is like itself. -/
theorem setPhase_alike (name space : String) (phase : Phase) :
    Alike (fun pairing => Results pairing.Twins) pairing (setPhase name space phase)
      (setPhase name space phase) := by
  refine .call (.get _ space) fun more answer twin grows same => ?_
  cases same with
  | error error => exact .tell (.done (.error error))
  | ok twins =>
    refine .tell (.call (.update (revisedJob_twins twins phase) space)
      fun more answer twin grows same => ?_)
    cases same with
    | ok twins => exact .done (.ok twins)
    | error error =>
      show Alike _ _ (if error.isConflict then .tell _ (.done _) else .done _)
        (if error.isConflict then .tell _ (.done _) else .done _)
      split
      · exact .tell (.done (.error error))
      · exact .done (.error error)

/-- An operation on a state or a job is like itself. -/
theorem Operation.alike (onStates : operation.OnStates) (pairing : Pairing) :
    Alike TwinOutcomes pairing operation.program operation.program := by
  cases operation with
  | ensure name space workload =>
    refine (ensure_alike name space workload).bind fun more one other _ same => ?_
    subst same
    exact .done (.ensured one)
  | read name space workload =>
    exact (read_alike name space workload).bind fun more one other _ same => .done (.details same)
  | write pod name space details =>
    exact (write_alike pod name space details).bind
      fun more one other _ same => .done (.document same)
  | setPhase name space phase =>
    exact (setPhase_alike name space phase).bind
      fun more one other _ same => .done (.document same)
  | ask call => exact onStates.elim

/-- The protocol of operations by their numbers: sound calls of their keys, and sound answers with
their names. -/
def lanes (vocabulary : Vocabulary) (operations : List Operation) (number : Nat) : Protocol where
  calls call := call.Sound vocabulary ∧
    ∃ operation, operations[number]? = some operation ∧ call.key = operation.key
  answers answer := answer.Sound vocabulary ∧
    ∀ operation, operations[number]? = some operation →
      ∀ document, answer = .ok document → document.name = operation.key.name
  times := vocabulary.instants

variable {uids : Nat → String} {vocabulary : Vocabulary} {memory : Memory} {clock : Clock}

/-- A sound store answers a call with a document of the name that was asked for. -/
theorem answer_name (stable : vocabulary.Stable) (sound : memory.Sound vocabulary) {kind : Kind}
    {call : Call kind} {answer : Answer kind} {after : Memory}
    (move : Memory.Move uids memory call answer after) {document : Resource kind}
    (ok : answer = .ok document) : document.name = call.key.name := by
  cases move with
  | fetched found decoded =>
    obtain rfl := Except.ok.inj ok
    exact (sound.decoded stable found decoded).2.1
  | created | updated =>
    obtain rfl := Except.ok.inj ok
    rfl
  | absent | garbled | versioned | taken | lost | stale => contradiction

/-- A sound store serves operations that keep to their keys. -/
theorem serves_lanes (uids : Nat → String) (stable : vocabulary.Stable)
    (operations : List Operation) (number : Nat) :
    (Memory.repository uids).Serves (Memory.Sound vocabulary)
      (lanes vocabulary operations number) := by
  rintro kind call memory sound ⟨soundCall, operation, entered, own⟩
  have move := Memory.repository_move uids memory call
  obtain ⟨soundAnswer, after⟩ := move.sound stable sound soundCall
  refine ⟨⟨soundAnswer, fun rival there document ok => ?_⟩, after⟩
  obtain rfl := Option.some.inj (entered.symm.trans there)
  rw [← own]
  exact answer_name stable sound move ok

/-- An operation on a state or a job keeps to its key. -/
theorem Operation.keeps_lane (entered : operations[number]? = some operation)
    (onStates : operation.OnStates) (admitted : operation.Admitted vocabulary) :
    operation.program.Keeps (lanes vocabulary operations number) := by
  have done (outcome : Outcome) :
      (Program.done outcome).Keeps (lanes vocabulary operations number) := trivial
  have lane {kind : Kind} {call : Call kind} (sound : call.Sound vocabulary)
      (own : call.key = operation.key) : (lanes vocabulary operations number).calls call :=
    ⟨sound, operation, entered, own⟩
  have named {kind : Kind} {document : Resource kind}
      (answered : (lanes vocabulary operations number).answers (.ok document)) :
      document.name = operation.key.name :=
    answered.2 operation entered document rfl
  cases operation with
  | ensure name space workload =>
    exact (ensure_keeps (lane trivial rfl) (lane (emptyState_sound _ _ _) rfl)).bind
      fun _ => done _
  | read name space workload =>
    exact (read_keeps (lane trivial rfl) (lane (emptyState_sound _ _ _) rfl)).bind
      fun _ => done _
  | write pod name space details =>
    refine (write_keeps (lane trivial rfl) fun state now answered shown => ?_).bind fun _ => done _
    have asked : state.name = Name.sanitize name := named answered
    refine lane (revisedState_sound (answered.1 state rfl) pod details shown) ?_
    exact congrArg (fun name => (⟨.checkState, name, space⟩ : Key)) asked
  | setPhase name space phase =>
    refine (setPhase_keeps (lane trivial rfl) fun job answered => ?_).bind fun _ => done _
    have asked : job.name = name := named answered
    refine lane (revisedJob_sound (answered.1 job rfl) admitted) ?_
    exact congrArg (fun name => (⟨.checkJob, name, space⟩ : Key)) asked
  | ask call => exact onStates.elim

/-- A contest and one of the operations on a key alone: the stores hold twins under the key, and
every operation on the key is at the same point in both. -/
structure Mirrors (pairing : Pairing) (key : Key) (operations : List Operation)
    (full alone : Pool Outcome Memory) : Prop where
  /-- The stores hold twins under the key. -/
  matched : pairing.Matched key full.world.state alone.world.state
  /-- The programs of the operations on the key are alike. -/
  programs : ∀ number operation, operations[number]? = some operation → operation.key = key →
    ∃ program twin, full.programs[number]? = some program ∧
      alone.programs[rank key operations number]? = some twin ∧
      Alike TwinOutcomes pairing program twin

/-- The programs of a contest keep to the keys of their operations, and the store is sound. -/
def InLanes (operations : List Operation) (pool : Pool Outcome Memory) : Prop :=
  pool.Obeys (lanes .all operations) (Memory.Sound .all)

/-- A turn keeps programs to the keys of their operations. -/
theorem InLanes.turn {pool : Pool Outcome Memory} (inLanes : InLanes operations pool)
    (uids : Nat → String) (clock : Clock) (number : Nat) :
    InLanes operations (pool.turn (Memory.repository uids) clock number) :=
  Pool.Obeys.turn inLanes (serves_lanes uids Vocabulary.all_stable operations)
    (fun _ _ => trivial) number

variable {full alone : Pool Outcome Memory}

/-- A turn of an operation on the key is one of its own in both contests. -/
theorem Mirrors.turn_own (mirrors : Mirrors pairing key operations full alone)
    (legible : pairing.Legible) (inLanes : InLanes operations full)
    (entered : operations[number]? = some operation) (own : operation.key = key) :
    ∃ more, pairing.links ⊆ more ∧
      Mirrors (pairing.relink more) key operations
        (full.turn (Memory.repository pairing.left.uids) pairing.left.clock number)
        (alone.turn (Memory.repository pairing.right.uids) pairing.right.clock
          (rank key operations number)) := by
  obtain ⟨program, twin, found, foundTwin, alike⟩ := mirrors.programs number operation entered own
  have calls (kind : Kind) (call : Call kind) (resume : Answer kind → Program Outcome)
      (waits : program = .call call resume) : call.key = key := by
    subst waits
    obtain ⟨-, rival, there, ownCall⟩ := (inLanes.programs number _ found).1
    obtain rfl := Option.some.inj (entered.symm.trans there)
    exact ownCall.trans own
  obtain ⟨more, grows, advanced, after⟩ := mirrors.matched.advance legible alike calls
  obtain ⟨world, moved⟩ := Pool.turn_eq (Memory.repository pairing.left.uids) pairing.left.clock
    found
  obtain ⟨twinWorld, twinMoved⟩ := Pool.turn_eq (Memory.repository pairing.right.uids)
    pairing.right.clock foundTwin
  refine ⟨more, grows, by rwa [world, twinWorld], fun other rival there ownAgain => ?_⟩
  by_cases same : other = number
  · subst same
    exact ⟨_, _, moved, twinMoved, advanced⟩
  · obtain ⟨waiting, waitingTwin, stays, twinStays, alike⟩ :=
      mirrors.programs other rival there ownAgain
    have apart := rank_ne there ownAgain entered own same
    refine ⟨waiting, waitingTwin, ?_, ?_, alike.relink twinOutcomes_monotone grows⟩
    · rwa [Pool.turn_of_ne _ _ same]
    · rwa [Pool.turn_of_ne _ _ apart]

/-- A turn of an operation on another key leaves the contests mirrored. -/
theorem Mirrors.turn_other (mirrors : Mirrors pairing key operations full alone)
    (inLanes : InLanes operations full) (uids : Nat → String) (clock : Clock)
    (elsewhere : ∀ operation, operations[number]? = some operation → operation.key ≠ key) :
    Mirrors pairing key operations (full.turn (Memory.repository uids) clock number) alone := by
  refine ⟨?_, fun other rival there own => ?_⟩
  · cases made : full.exchange? (Memory.repository uids) number with
    | none =>
      rw [Pool.turn_state_of_silent made]
      exact mirrors.matched
    | some exchange =>
      rw [Pool.turn_state_of_exchange clock made]
      have move := Memory.repository_move uids full.world.state exchange.request
      obtain ⟨-, operation, entered, own⟩ := inLanes.exchange made
      have different : exchange.request.key ≠ key := own ▸ elsewhere operation entered
      exact mirrors.matched.apart (move.find?_of_ne different) move.lastVersion_le
  · obtain ⟨program, twin, found, foundTwin, alike⟩ := mirrors.programs other rival there own
    have different : other ≠ number := by
      rintro rfl
      exact elsewhere rival there own
    refine ⟨program, twin, ?_, foundTwin, alike⟩
    rwa [Pool.turn_of_ne _ _ different]

/-- Runs of two contests that mirror each other end as such. -/
theorem Mirrors.run (mirrors : Mirrors pairing key operations full alone)
    (legible : pairing.Legible) (inLanes : InLanes operations full) (schedule : List Nat) :
    ∃ more, Mirrors (pairing.relink more) key operations
      (full.run (Memory.repository pairing.left.uids) pairing.left.clock schedule)
      (alone.run (Memory.repository pairing.right.uids) pairing.right.clock
        (turnsOn key operations schedule)) := by
  induction schedule generalizing pairing full alone with
  | nil => exact ⟨pairing.links, mirrors⟩
  | cons number rest ih =>
    have inLanesNext := inLanes.turn pairing.left.uids pairing.left.clock number
    by_cases here : ∃ operation, operations[number]? = some operation ∧ operation.key = key
    · obtain ⟨operation, entered, own⟩ := here
      have turns : turnsOn key operations (number :: rest) =
          rank key operations number :: turnsOn key operations rest := by
        simp [turnsOn, entered, own]
      obtain ⟨more, -, next⟩ := mirrors.turn_own legible inLanes entered own
      have stillLegible : (pairing.relink more).Legible := ⟨legible.left, legible.right⟩
      obtain ⟨further, ended⟩ := ih next stillLegible inLanesNext
      rw [turns]
      exact ⟨further, ended⟩
    · have elsewhere (operation : Operation) (entered : operations[number]? = some operation) :
          operation.key ≠ key :=
        fun own => here ⟨operation, entered, own⟩
      have turns : turnsOn key operations (number :: rest) = turnsOn key operations rest := by
        refine List.filterMap_cons_none ?_
        cases entered : operations[number]? with
        | none => rfl
        | some operation => simp [elsewhere operation entered]
      rw [turns]
      exact ih (mirrors.turn_other inLanes _ _ elsewhere) legible inLanesNext

/-- A specification is its own twin. -/
theorem twinSpecs_self {kind : Kind} (spec : kind.Spec) : pairing.TwinSpecs kind spec spec := by
  cases kind with
  | checkState => exact ⟨rfl, .inl rfl⟩
  | checkJob => rfl

/-- A sound store is its own twin, with the version of the key standing for itself. -/
theorem matched_self (sound : memory.Sound .all) (left right : Sources) (key : Key) :
    ∃ links, (⟨left, right, links⟩ : Pairing).Matched key memory memory := by
  cases found : memory.find? key with
  | none =>
    refine ⟨[], nofun, nofun, ?_⟩
    rw [found]
    exact .none
  | some stored =>
    obtain ⟨document, shown⟩ := sound.shows key stored found
    let pairing : Pairing := ⟨left, right, [(stored.version, stored.version)]⟩
    have linked : (stored.version, stored.version) ∈ pairing.links := List.mem_cons_self
    have versions : Option.Rel pairing.Versions document.metadata.version
        document.metadata.version := by
      rw [show document.metadata.version = some _ from shown.version]
      exact .some ⟨_, _, linked, rfl, rfl⟩
    have identities : Option.Rel pairing.Identities document.metadata.uid
        document.metadata.uid := by
      rw [shown.uid]
      exact .some (.inl rfl)
    have twins : pairing.Twins document document :=
      ⟨shown.sound.framed, rfl, rfl, versions, identities, rfl, twinSpecs_self _, rfl⟩
    have only {link : Nat × Nat} (there : link ∈ pairing.links) :
        link = (stored.version, stored.version) := List.mem_singleton.1 there
    refine ⟨pairing.links, fun first there second also => ?_, fun link there => ?_, ?_⟩
    · rw [only there, only also]
    · rw [only there]
      exact ⟨sound.bounded key stored found, sound.bounded key stored found⟩
    · rw [found]
      exact .some linked (.inl rfl) twins shown.body shown.body

/-- A contest and one of the operations on a key alone begin as mirrors of each other. -/
theorem contest_mirrors (sound : memory.Sound .all)
    (onStates : ∀ operation ∈ operations, operation.OnStates) (left right : Sources) (key : Key) :
    ∃ links, Mirrors ⟨left, right, links⟩ key operations (contest left.clock memory operations)
      (contest right.clock memory (onKey key operations)) := by
  obtain ⟨links, matched⟩ := matched_self sound left right key
  refine ⟨links, by rwa [contest_state, contest_state], fun number operation entered own => ?_⟩
  obtain ⟨begin, -, started⟩ := contest_programs left.clock memory entered
  obtain ⟨beginAlone, -, startedAlone⟩ :=
    contest_programs right.clock memory (onKey_rank entered own)
  have alike := operation.alike (onStates operation (List.mem_of_getElem? entered))
    ⟨left, right, links⟩
  exact ⟨_, _, started, startedAlone, alike.settle begin beginAlone⟩

/-- The operations of a contest on states and jobs begin in the lanes of their keys. -/
theorem contest_inLanes (sound : memory.Sound .all)
    (onStates : ∀ operation ∈ operations, operation.OnStates) (clock : Clock) :
    InLanes operations (contest clock memory operations) := by
  refine Pool.obeys_ofPrograms sound (fun _ _ => trivial) fun number program found => ?_
  rw [List.getElem?_map] at found
  obtain ⟨operation, entered, rfl⟩ := Option.map_eq_some_iff.1 found
  have acts := onStates operation (List.mem_of_getElem? entered)
  refine Operation.keeps_lane entered acts ?_
  cases operation with
  | ensure | read | write | setPhase => trivial
  | ask call => exact acts.elim

/-- Take away from a contest the operations on all other keys, and leave the rest of the schedule
as it is. Then every operation on the key comes to the same, and the same is stored under the key
at the end, but for versions, identities and the times of the clocks. -/
theorem keys_do_not_interfere {seeds : Nat → String} (reached : Reachable seeds .all memory)
    (onStates : ∀ operation ∈ operations, operation.OnStates) {left right : Sources}
    (valid : ∀ count, (left.clock count).Valid)
    (validAlone : ∀ count, (right.clock count).Valid) (schedule : List Nat) (key : Key) :
    let full := (contest left.clock memory operations).run (Memory.repository left.uids)
      left.clock schedule
    let alone := (contest right.clock memory (onKey key operations)).run
      (Memory.repository right.uids) right.clock (turnsOn key operations schedule)
    ∃ links, let pairing : Pairing := ⟨left, right, links⟩
      pairing.OneToOne ∧
      (∀ number operation, operations[number]? = some operation → operation.key = key →
        Option.Rel (TwinOutcomes pairing) (full.programs[number]?.bind Program.result?)
          (alone.programs[rank key operations number]?.bind Program.result?)) ∧
      pairing.Entries key (full.world.state.find? key) (alone.world.state.find? key) := by
  intro full alone
  have sound := reached.sound Vocabulary.all_stable
  obtain ⟨links, begins⟩ := contest_mirrors sound onStates left right key
  obtain ⟨more, ends⟩ := begins.run
    ⟨fun count => (valid count).readable, fun count => (validAlone count).readable⟩
    (contest_inLanes sound onStates left.clock) schedule
  refine ⟨more, ends.matched.oneToOne, fun number operation entered own => ?_,
    ends.matched.entries⟩
  obtain ⟨program, twin, found, foundTwin, alike⟩ := ends.programs number operation entered own
  show Option.Rel _ (full.programs[number]?.bind _) (alone.programs[_]?.bind _)
  rw [found, foundTwin]
  exact alike.result?

/-- A store with a job. -/
def nightlyStored : Memory :=
  ((contest default .empty [.ask (.create (.new "nightly" "" .empty : CheckJob) "health")]).run
    (Memory.repository toString) default [0]).world.state

/-- A store with a job is reachable. -/
theorem nightlyStored_reachable : Reachable toString .all nightlyStored := by
  refine .contest .empty default _ [0] (fun _ => trivial) fun operation there => ?_
  obtain rfl := List.mem_singleton.1 there
  exact ⟨newJob_decoded "nightly" "", Resource.within_all _⟩

/-- A check is read and written while a job changes its phase. -/
def pingBesideNightly : List Operation :=
  [.read "ping" "health" .check, .setPhase "nightly" "health" .running,
   .write "pod-a" "ping" "health" (.ofResult true [])]

/-- The key of the check. -/
def pingKey : Key := ⟨.checkState, Name.sanitize "ping", "health"⟩

/-- What two runs may draw on. -/
def plainSources : Sources := ⟨toString, default⟩

/-- The check does not see the job. -/
theorem ping_ignores_nightly :
    let full := (contest plainSources.clock nightlyStored pingBesideNightly).run
      (Memory.repository plainSources.uids) plainSources.clock [0, 1, 0, 2, 1, 0, 2]
    let alone := (contest plainSources.clock nightlyStored (onKey pingKey pingBesideNightly)).run
      (Memory.repository plainSources.uids) plainSources.clock
      (turnsOn pingKey pingBesideNightly [0, 1, 0, 2, 1, 0, 2])
    ∃ links, let pairing : Pairing := ⟨plainSources, plainSources, links⟩
      pairing.OneToOne ∧
      Option.Rel (TwinOutcomes pairing) (full.programs[2]?.bind Program.result?)
        (alone.programs[rank pingKey pingBesideNightly 2]?.bind Program.result?) ∧
      pairing.Entries pingKey (full.world.state.find? pingKey)
        (alone.world.state.find? pingKey) := by
  have onStates : ∀ operation ∈ pingBesideNightly, operation.OnStates := by
    simp only [pingBesideNightly, List.forall_mem_cons]
    exact ⟨trivial, trivial, trivial, fun _ none => nomatch none⟩
  have epoch : (default : Time.Instant).Valid :=
    ⟨by decide, by decide, by decide, .inl (by decide)⟩
  have valid (count : Nat) : (plainSources.clock count).Valid := epoch
  obtain ⟨links, oneToOne, outcomes, entries⟩ := keys_do_not_interfere nightlyStored_reachable
    onStates valid valid [0, 1, 0, 2, 1, 0, 2] pingKey
  have entered : pingBesideNightly[2]? =
    some (.write "pod-a" "ping" "health" (.ofResult true [])) := rfl
  have outcome := outcomes 2 _ entered rfl
  exact ⟨links, oneToOne, outcome, entries⟩

end HealthLedger.State
