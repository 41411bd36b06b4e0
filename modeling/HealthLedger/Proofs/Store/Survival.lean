import HealthLedger.Proofs.Store.Interruption

/-!
# What survives lost answers

Calls to the store in memory are interrupted, and their callers are told failures that say nothing
about what is stored. The store keeps a record of the calls that are carried out, which the
interruptions do not reach. Whatever is interrupted, gets and creates of one key leave in place
what is stored, and create the key once at most (`Memory.survives_reads`). A caller that is told
anything else than the failure of an interruption knows what is stored (`Memory.told_of_get`,
`Memory.told_of_create`).
-/

namespace HealthLedger.Store

open Document (Kind Key Resource Vocabulary)

/-- A failure that says nothing about what is stored. -/
def Reason.LeavesDoubt : Reason → Prop
  | .transport _ | .api _ _ | .codec _ => True
  | .notFound | .alreadyExists | .conflict => False

/-- Every interruption tells a failure that says nothing about what is stored. -/
def Interruptions.LeaveDoubt (plan : Interruptions) : Prop :=
  ∀ number interruption, plan number = some interruption →
    ∀ key, (interruption.failure key).reason.LeavesDoubt

/-- A failure that is told by an interruption of one of these calls. -/
def Interruptions.Tell (plan : Interruptions) (key : Key) (before after : Nat) (error : Error) :
    Prop :=
  ∃ number interruption, before < number ∧ number ≤ after ∧ plan number = some interruption ∧
    error = interruption.failure key

namespace Interruptions

variable {plan : Interruptions} {interruption : Interruption} {key : Key} {calls : Nat}

/-- The next call is interrupted. -/
theorem Tell.of_some (struck : plan (calls + 1) = some interruption) :
    plan.Tell key calls (calls + 1) (interruption.failure key) :=
  ⟨calls + 1, interruption, Nat.lt_succ_self calls, Nat.le_refl _, struck, rfl⟩

/-- Among these calls are those. -/
theorem Tell.widen {first before after last : Nat} {error : Error}
    (tell : plan.Tell key before after error) (earlier : first ≤ before) (later : after ≤ last) :
    plan.Tell key first last error := by
  obtain ⟨number, interruption, less, most, struck, same⟩ := tell
  exact ⟨number, interruption, by omega, by omega, struck, same⟩

/-- What leaves doubt does not tell whether anything is stored. -/
theorem LeaveDoubt.of_some (doubt : plan.LeaveDoubt) (struck : plan calls = some interruption)
    (key : Key) :
    (interruption.failure key).isNotFound = false ∧
      (interruption.failure key).isAlreadyExists = false := by
  have unsure := doubt calls interruption struck key
  simp only [Error.isNotFound, Error.isAlreadyExists]
  cases reason : (interruption.failure key).reason with
  | transport | api | codec => exact ⟨rfl, rfl⟩
  | notFound | alreadyExists | conflict =>
    rw [reason] at unsure
    exact unsure.elim

end Interruptions

/-- The number of creates that were carried out and succeeded. -/
def creations (record : List Exchange) : Nat := record.countP fun exchange => exchange.isCreated

/-- A store in memory with the record of the calls that were carried out, and then again: what was
stored under a key is still there, and nothing was created, or once what was not there. -/
structure Survives (vocabulary : Vocabulary) (key : Key) (held after : Memory × List Exchange) :
    Prop where
  /-- The store stays sound. -/
  sound : held.1.Sound vocabulary → after.1.Sound vocabulary
  /-- What was stored is still there. -/
  kept : ∀ stored, held.1.find? key = some stored → after.1.find? key = some stored
  /-- Nothing was created, or once what was not there. -/
  created : creations after.2 = creations held.2 ∨
    held.1.find? key = none ∧ after.1.Holds key ∧ creations after.2 = creations held.2 + 1

namespace Survives

variable {vocabulary : Vocabulary} {key : Key} {held middle after : Memory × List Exchange}

/-- Nothing happens. -/
theorem refl (vocabulary : Vocabulary) (key : Key) (held : Memory × List Exchange) :
    Survives vocabulary key held held :=
  ⟨id, fun _ found => found, .inl rfl⟩

/-- What is stored stays stored. -/
theorem holds (survives : Survives vocabulary key held after) (holds : held.1.Holds key) :
    after.1.Holds key :=
  holds.imp survives.kept

/-- What is not there in the end was not there in the beginning. -/
theorem absent (survives : Survives vocabulary key held after)
    (nothing : after.1.find? key = none) : held.1.find? key = none := by
  cases found : held.1.find? key with
  | none => rfl
  | some stored => exact (survives.kept stored found).symm.trans nothing

/-- One after the other. -/
theorem trans (first : Survives vocabulary key held middle)
    (second : Survives vocabulary key middle after) : Survives vocabulary key held after := by
  refine ⟨second.sound ∘ first.sound, fun stored found => second.kept _ (first.kept _ found), ?_⟩
  obtain same | ⟨nothing, there, more⟩ := first.created
  · obtain again | ⟨nothing, there, more⟩ := second.created
    · exact .inl (again.trans same)
    · exact .inr ⟨first.absent nothing, there, by omega⟩
  · obtain again | ⟨still, -⟩ := second.created
    · exact .inr ⟨nothing, second.holds there, by omega⟩
    · exact absurd still there.ne_none

end Survives

/-- A call of a reader: a get or a create of a sound document under the key. -/
structure Call.Reads (vocabulary : Vocabulary) (key : Key) {kind : Kind} (call : Call kind) :
    Prop where
  /-- The call is no update. -/
  reads : call.isUpdate = false
  /-- The key is addressed. -/
  addressed : call.key = key
  /-- The document is sound. -/
  sound : call.Sound vocabulary

namespace Memory

variable {uids : Nat → String} {memory after : Memory} {vocabulary : Vocabulary} {key : Key}
  {plan : Interruptions} {kind : Kind} {call : Call kind} {answer : Answer kind}
  {counted ended : Counted (Memory × List Exchange)}

/-- What the call of a reader does to the store and its record. -/
theorem Effect.survives (effect : Effect memory call answer after)
    (reads : call.Reads vocabulary key) (record : List Exchange)
    (sound : memory.Sound vocabulary → after.Sound vocabulary) :
    Survives vocabulary key (memory, record) (after, record ++ [.alone call answer]) := by
  cases effect with
  | silent unwritten =>
    rw [Call.isWrite, reads.reads, Bool.or_false] at unwritten
    have nothing : (Exchange.alone call answer).isCreated = false := unwritten
    exact ⟨sound, fun _ found => found, .inl (by simp [creations, nothing])⟩
  | @created document space uid nothing =>
    obtain rfl : document.keyIn space = key := reads.addressed
    refine ⟨sound, fun stored found => ?_, .inr ⟨nothing, ⟨_, find?_write_self _ _ _ _⟩, ?_⟩⟩
    · have missing := nothing.symm.trans found
      contradiction
    · exact List.countP_append
  | updated =>
    have update := reads.reads
    contradiction

/-- The store in memory with a record of the calls that are carried out, some of whose calls are
interrupted. -/
def unreliable (uids : Nat → String) (plan : Interruptions) :
    Repository (Counted (Memory × List Exchange)) :=
  (repository uids).recorded.interrupted plan

/-- Every call is counted. -/
theorem unreliable_calls (call : Call kind) (counted : Counted (Memory × List Exchange)) :
    ((unreliable uids plan).perform call counted).2.calls = counted.calls + 1 :=
  Repository.interrupted_calls _ _ _ _

/-- What the call of a reader does, whether it is interrupted or not. -/
theorem survives_call (stable : vocabulary.Stable) (reads : call.Reads vocabulary key)
    (counted : Counted (Memory × List Exchange)) :
    Survives vocabulary key counted.state
      ((unreliable uids plan).perform call counted).2.state := by
  obtain ⟨⟨memory, record⟩, calls⟩ := counted
  have move := repository_move uids memory call
  have carriedOut := move.effect.survives reads record fun sound =>
    (move.sound stable sound reads.sound).2
  cases struck : plan (calls + 1) with
  | none =>
    rw [unreliable, Repository.interrupted_of_none struck]
    exact carriedOut
  | some interruption =>
    rw [unreliable, Repository.interrupted_of_some struck]
    split
    · exact carriedOut
    · exact .refl ..

/-- What the calls of readers do, whichever of them are interrupted. -/
theorem survives_reads (stable : vocabulary.Stable) {exchanges : List Exchange}
    (leads : (unreliable uids plan).Leads counted exchanges ended)
    (reads : ∀ exchange ∈ exchanges, exchange.request.Reads vocabulary key) :
    Survives vocabulary key counted.state ended.state ∧
      ended.calls = counted.calls + exchanges.length := by
  induction exchanges generalizing counted with
  | nil =>
    obtain rfl := leads
    exact ⟨.refl .., rfl⟩
  | cons exchange rest ih =>
    obtain ⟨-, leads⟩ := leads
    obtain ⟨first, others⟩ := List.forall_mem_cons.1 reads
    obtain ⟨survives, calls⟩ := ih leads others
    refine ⟨(survives_call stable first counted).trans survives, ?_⟩
    rw [calls, unreliable_calls, List.length_cons]
    omega

/-- A get that returns a document has found it, and one that fails was interrupted, unless it has
found nothing. -/
theorem told_of_get (legible : vocabulary.Legible kind) (sound : counted.state.1.Sound vocabulary)
    (doubt : plan.LeaveDoubt) {name space : String} {answer : Answer kind}
    (answered : ((unreliable uids plan).perform (.get name space) counted).1 = answer) :
    (∀ document, answer = .ok document → counted.state.1.Holds ⟨kind, name, space⟩) ∧
      ∀ error, answer = .error error →
        (counted.state.1.find? ⟨kind, name, space⟩ = none ∧ error.isNotFound) ∨
          error.isNotFound = false ∧
            plan.Tell ⟨kind, name, space⟩ counted.calls (counted.calls + 1) error := by
  cases struck : plan (counted.calls + 1) with
  | none =>
    have move := perform_move uids counted.state.1 (.get name space : Call kind)
    rw [unreliable, Repository.interrupted_of_none struck] at answered
    change (perform uids (.get name space) counted.state.1).1 = answer at answered
    rw [answered] at move
    obtain ⟨nothing, rfl⟩ | ⟨stored, document, found, -, rfl⟩ := move.get_legible legible sound
    · refine ⟨nofun, fun error failed => ?_⟩
      obtain rfl := Except.error.inj failed
      exact .inl ⟨nothing, rfl⟩
    · exact ⟨fun _ _ => ⟨stored, found⟩, nofun⟩
  | some interruption =>
    rw [unreliable, Repository.interrupted_of_some struck] at answered
    obtain rfl := answered
    refine ⟨nofun, fun error failed => ?_⟩
    obtain rfl := Except.error.inj failed
    exact .inr ⟨(doubt.of_some struck _).1, .of_some struck⟩

/-- Behind the create of a document without a version a document is stored, if one is returned or
was found, and otherwise the create was interrupted. -/
theorem told_of_create (doubt : plan.LeaveDoubt) {document : Resource kind} {space : String}
    (fresh : document.version = none) {answer : Answer kind}
    (answered : ((unreliable uids plan).perform (.create document space) counted).1 = answer) :
    let after := ((unreliable uids plan).perform (.create document space) counted).2
    (∀ created, answer = .ok created → after.state.1.Holds (document.keyIn space)) ∧
      ∀ error, answer = .error error →
        (after.state.1.Holds (document.keyIn space) ∧ error.isAlreadyExists) ∨
          error.isAlreadyExists = false ∧
            plan.Tell (document.keyIn space) counted.calls (counted.calls + 1) error := by
  intro after
  cases struck : plan (counted.calls + 1) with
  | none =>
    have move := perform_move uids counted.state.1 (.create document space)
    have same : after = _ := congrArg Prod.snd (Repository.interrupted_of_none struck)
    rw [unreliable, Repository.interrupted_of_none struck] at answered
    change (perform uids (.create document space) counted.state.1).1 = answer at answered
    have there : after.state.1.Holds (document.keyIn space) := by
      rw [same]
      show Holds (perform uids (.create document space) counted.state.1).2 _
      obtain ⟨-, -, written⟩ | ⟨holds, -, unchanged⟩ := move.create_fresh fresh
      · rw [written]
        exact ⟨_, find?_write_self _ _ _ _⟩
      · rw [unchanged]
        exact holds
    refine ⟨fun _ _ => there, fun error failed => .inl ⟨there, ?_⟩⟩
    obtain ⟨-, ok, -⟩ | ⟨-, taken, -⟩ := move.create_fresh fresh
    · have impossible := (ok.symm.trans answered).trans failed
      contradiction
    · obtain rfl := Except.error.inj ((taken.symm.trans answered).trans failed)
      rfl
  | some interruption =>
    rw [unreliable, Repository.interrupted_of_some struck] at answered
    obtain rfl := answered
    refine ⟨nofun, fun error failed => ?_⟩
    obtain rfl := Except.error.inj failed
    exact .inr ⟨(doubt.of_some struck _).2, .of_some struck⟩

end Memory

end HealthLedger.Store
