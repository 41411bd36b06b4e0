import HealthLedger.Proofs.State.Candor
import HealthLedger.Proofs.State.CreateIfAbsent
import HealthLedger.Proofs.State.Isolation

/-!
# What operations leave of a document

Operations that use one store at the same time add states and change specifications, and nothing
else. A turn changes nothing, or creates the state of the reader whose turn it is, or writes what a
writer makes of the document that is stored (`Turned`). So a document that is stored once stays
stored with its name, its namespace, its identity and everything that no operation knows of
(`documents_keep_identity`).
-/

namespace HealthLedger.Document

/-- A later form of a document: all is the same but for the version and what an operation knows of
the specification. -/
structure Resource.Continues {kind : Kind} (document later : Resource kind) : Prop where
  /-- The metadata are the same but for the version. -/
  metadata : later.metadata = { document.metadata with version := later.metadata.version }
  /-- The other members are the same. -/
  extra : later.extra = document.extra
  /-- The rest of the specification is the same. -/
  rest : kind.SameRest document.spec later.spec

namespace Resource.Continues

variable {kind : Kind} {first second third : Resource kind}

/-- A document is a later form of itself. -/
theorem refl (document : Resource kind) : document.Continues document := ⟨rfl, rfl, .refl _⟩

/-- A later form of a later form. -/
theorem trans (later : first.Continues second) (last : second.Continues third) :
    first.Continues third := by
  refine ⟨?_, last.extra.trans later.extra, later.rest.trans last.rest⟩
  rw [last.metadata, later.metadata]

end Resource.Continues

end HealthLedger.Document

namespace HealthLedger.Store

open Document (Key Resource)

/-- A later entry of a key: it has the identity of the entry, and shows a later form of what the
entry shows. -/
structure Stored.Continues (stored : Stored) (key : Key) (later : Stored) : Prop where
  /-- The identity is the same. -/
  uid : later.uid = stored.uid
  /-- A later form of the document is shown. -/
  shows : ∀ {document : Resource key.kind}, stored.Shows .all key document →
    ∃ form, later.Shows .all key form ∧ document.Continues form

namespace Stored.Continues

variable {key : Key} {first second third : Stored}

/-- An entry is a later entry of itself. -/
theorem refl (stored : Stored) (key : Key) : stored.Continues key stored :=
  ⟨rfl, fun shown => ⟨_, shown, .refl _⟩⟩

/-- A later entry of a later entry. -/
theorem trans (later : first.Continues key second) (last : second.Continues key third) :
    first.Continues key third := by
  refine ⟨last.uid.trans later.uid, fun shown => ?_⟩
  obtain ⟨middle, shownLater, continues⟩ := later.shows shown
  obtain ⟨form, shownLast, again⟩ := last.shows shownLater
  exact ⟨form, shownLast, continues.trans again⟩

end Stored.Continues

end HealthLedger.Store

namespace HealthLedger.State

open Document (Kind Key Resource Vocabulary)
open Store (Program Call Answer Pool Memory Stored Clock Exchange)

/-- What the turn of an operation makes of the store. -/
inductive Turned (uids : Nat → String) (memory after : Memory) : Option Operation → Prop
  /-- The store is as it was. -/
  | silent {turning : Option Operation} (same : after = memory) : Turned uids memory after turning
  /-- A reader creates its state under a key that has none. -/
  | created {operation : Operation} {consultation : Consultation}
    (reads : operation.consultation? = some consultation)
    (nothing : memory.find? consultation.key = none)
    (written : after = (memory.write consultation.state consultation.space
      (uids (memory.lastVersion + 1))).2) : Turned uids memory after (some operation)
  /-- A writer writes what it makes of the document that is stored under its key. -/
  | revised {operation : Operation} {revision : Revision}
    (writes : operation.revision? = some revision) {stored : Stored}
    (found : memory.find? revision.key = some stored) {document : Resource revision.key.kind}
    (decoded : (Resource.decoder revision.key.kind).decodeValue stored.body = .ok document)
    (now : Time.Instant)
    (own : (revision.revise now document).keyIn revision.key.space = revision.key)
    (written : after =
      (memory.write (revision.revise now document) revision.key.space stored.uid).2) :
    Turned uids memory after (some operation)

variable {uids : Nat → String} {clock : Clock} {memory after : Memory}
  {operations : List Operation} {operation : Operation} {number : Nat}

/-- An operation that waits at an update has got the document that it makes its update of, and asked
for nothing else. -/
theorem update_of_get (onStates : operation.OnStates)
    (entered : operations[number]? = some operation) {before : List Nat} {kind : Kind}
    {document : Resource kind} {space : String} {resume : Answer kind → Program Outcome}
    (waits : ((contest clock memory operations).run (Memory.repository uids) clock
      before).programs[number]? = some (.call (.update document space) resume)) :
    ∃ (revision : Revision) (found : Resource revision.key.kind) (now : Time.Instant)
      (reply : Answer kind) (answer : Answer revision.key.kind),
      operation.revision? = some revision ∧
        Exchange.alone (.update document space) reply = revision.puts now found answer ∧
          Store.exchangesOf number ((contest clock memory operations).exchanges
            (Memory.repository uids) clock before) = [revision.gets (.ok found)] := by
  obtain ⟨begin, -, started⟩ := contest_programs clock memory entered
  obtain ⟨next, there, follows⟩ :=
    Pool.run_follows (Memory.repository uids) clock started before
  obtain rfl := Option.some.inj (waits.symm.trans there)
  -- Whatever the update is answered, the operation follows what it has asked so far.
  have goesOn := Program.follows_transcript (Memory.repository uids) clock
    (.call (.update document space) resume) begin
  have ⟨reply, rest, asked, _⟩ := goesOn
  rw [asked] at goesOn
  have course := Operation.course_of_follows onStates (follows _ _ goesOn).of_settle
  obtain ⟨revision, found, now, answer, writes, same, update, -⟩ := course.updated rfl rfl
  exact ⟨revision, found, now, reply, answer, writes, update, same⟩

/-- A document that was got has the key that it was asked for, and is still the one that is stored
as long as the version is the same. -/
theorem get_recalled (underway : Underway clock .all operations (contest clock memory operations))
    {key : Key} {found : Resource key.kind} {before : List Nat}
    (got : ⟨number, key.kind, .get key.name key.space, .ok found⟩ ∈
      (contest clock memory operations).exchanges (Memory.repository uids) clock before) :
    found.keyIn key.space = key ∧
      ∀ stored, ((contest clock memory operations).run (Memory.repository uids) clock
          before).world.state.find? key = some stored →
        found.version = some (toString stored.version) →
          (Resource.decoder key.kind).decodeValue stored.body = .ok found := by
  obtain ⟨first, turning, between, rfl, made⟩ := Pool.mem_exchanges.1 got
  have reading := underway.run uids first
  have move := Memory.repository_move uids
    ((contest clock memory operations).run (Memory.repository uids) clock first).world.state
    (.get key.name key.space : Call key.kind)
  obtain ⟨earlier, there, decoded⟩ := move.get_ok (Pool.exchange?_answer made)
  obtain ⟨-, name, -, version, -⟩ := reading.sound.decoded Vocabulary.all_stable there decoded
  refine ⟨congrArg (fun name => (⟨_, name, _⟩ : Key)) name, fun stored held current => ?_⟩
  have unmoved := (Pool.turn_state_of_exchange clock made).trans move.of_get
  rw [← List.singleton_append, ← List.append_assoc, Pool.run_append, Pool.run_append] at held
  -- Since the get the entry has stayed, or a greater version has taken its place.
  cases (reading.turn uids turning).fate uids (unmoved ▸ there) between with
  | kept _ still =>
    obtain rfl := Option.some.inj (still.symm.trans held)
    exact decoded
  | replaced _ later there newer =>
    obtain rfl := Option.some.inj (there.symm.trans held)
    have same := Store.toString_version_inj.1 (Option.some.inj (version.symm.trans current))
    omega

/-- The turn of an operation on states and jobs changes nothing, or creates the state of a reader,
or writes what a writer makes of the document that is stored. -/
theorem contest_turned (uids : Nat → String)
    (underway : Underway clock .all operations (contest clock memory operations))
    (onStates : ∀ operation ∈ operations, operation.OnStates) (before : List Nat) (number : Nat) :
    Turned uids
      ((contest clock memory operations).run (Memory.repository uids) clock before).world.state
      ((contest clock memory operations).run (Memory.repository uids) clock
        (before ++ [number])).world.state operations[number]? := by
  rw [Pool.run_append]
  show Turned uids _ (Pool.turn (Memory.repository uids) clock _ number).world.state _
  have running := underway.run uids before
  cases made : ((contest clock memory operations).run (Memory.repository uids) clock
      before).exchange? (Memory.repository uids) number with
  | none => exact .silent (Pool.turn_state_of_silent made)
  | some exchange =>
    rw [Pool.turn_state_of_exchange clock made]
    obtain ⟨operation, entered, -⟩ := running.makes made
    obtain ⟨kind, request, resume, waits, rfl⟩ := Pool.call_of_exchange? made
    have move := Memory.repository_move uids ((contest clock memory operations).run
      (Memory.repository uids) clock before).world.state request
    rw [entered]
    cases request with
    | get name space => exact .silent move.of_get
    | create document space =>
      obtain ⟨other, consultation, enteredAlso, reads, same⟩ :=
        create_exchange running onStates made rfl
      obtain rfl := Option.some.inj (entered.symm.trans enteredAlso)
      cases same
      obtain ⟨nothing, -, written⟩ | ⟨-, -, unchanged⟩ := move.create_fresh rfl
      · exact .created reads nothing written
      · exact .silent unchanged
    | update document space =>
      obtain ⟨revision, found, now, reply, answer, writes, same, asked⟩ :=
        update_of_get (onStates operation (List.mem_of_getElem? entered)) entered waits
      cases same
      have got : .alone (.get revision.key.name revision.key.space) (.ok found) ∈
          Store.exchangesOf number ((contest clock memory operations).exchanges
            (Memory.repository uids) clock before) := by
        rw [asked]
        exact List.mem_singleton_self _
      obtain ⟨key, decodes⟩ := get_recalled underway (Store.mem_exchangesOf.1 got)
      have own := (Operation.revise_keyIn writes now found _).trans key
      obtain unchanged | ⟨stored, held, current, written⟩ := move.of_update
      · exact .silent unchanged
      · rw [own] at held
        rw [Operation.revise_version writes] at current
        exact .revised writes held (decodes stored held current) now own written

/-- What is read back of a sound document differs from it in nothing but what an operation knows of
the specification. -/
theorem respecified_of_decoded {kind : Kind} {document read : Resource kind}
    (sound : document.Sound .all)
    (decoded : (Resource.decoder kind).decodeValue document.toValue = .ok read) :
    document.Respecified read := by
  have result := mapError_eq_ok_iff.1 decoded
  rw [Resource.ofValue_toValue sound.framed] at result
  obtain ⟨spec, reread, rfl⟩ := map_eq_ok_iff.1 result
  refine ⟨rfl, rfl, ?_⟩
  cases kind with
  | checkState => trivial
  | checkJob =>
    obtain rfl := Except.ok.inj reread
    rfl

/-- What a writer writes shows a later form of the document that was shown. -/
theorem continues_of_revise {revision : Revision} (writes : operation.revision? = some revision)
    {stored : Stored} {found : Resource revision.key.kind} (sound : memory.Sound .all)
    (held : memory.find? revision.key = some stored)
    (decoded : (Resource.decoder revision.key.kind).decodeValue stored.body = .ok found)
    (now : Time.Instant) (version : Nat) :
    stored.Continues revision.key ⟨version, stored.uid,
      (Memory.stamp (revision.revise now found) revision.key.space version
        stored.uid).toValue⟩ := by
  have admitted : operation.Admitted .all := by
    cases operation with
    | write | setPhase => trivial
    | ensure | read | ask => contradiction
  have soundFound := (sound.decoded Vocabulary.all_stable held decoded).1
  refine ⟨rfl, fun {document} shown => ?_⟩
  rw [shown.body] at decoded
  have changed := (respecified_of_decoded shown.sound decoded).trans
    (Operation.revise_respecified writes now found)
  refine ⟨_, ⟨?_, ?_, rfl, rfl, rfl, rfl⟩, ?_, changed.extra, changed.rest⟩
  · exact Memory.stamp_sound (Operation.revise_sound writes admitted soundFound trivial) _ _ _
  · exact (congrArg _ changed.metadata).trans shown.name
  · -- Stamping gives the namespace and the identity that the document has already.
    simp only [Memory.stamp, changed.metadata, ← shown.space, ← shown.uid]

/-- A turn leaves an entry as it is, or the operation whose turn it is writes a later form of it. -/
theorem Turned.continues {turning : Option Operation} (turned : Turned uids memory after turning)
    (sound : memory.Sound .all) {key : Key} {stored : Stored}
    (found : memory.find? key = some stored) :
    ∃ later, after.find? key = some later ∧ stored.Continues key later ∧
      (later = stored ∨ ∃ operation revision, turning = some operation ∧
        operation.revision? = some revision ∧ revision.key = key) := by
  cases turned with
  | silent same => exact ⟨stored, same ▸ found, .refl _ _, .inl rfl⟩
  | created reads nothing written =>
    refine ⟨stored, ?_, .refl _ _, .inl rfl⟩
    rw [written, Memory.find?_write, if_neg, found]
    rintro rfl
    have missing := nothing.symm.trans found
    contradiction
  | @revised operation revision writes held heldFound document decoded now own written =>
    rw [written, Memory.find?_write, own]
    by_cases same : key = revision.key
    · subst same
      obtain rfl := Option.some.inj (found.symm.trans heldFound)
      rw [if_pos rfl]
      exact ⟨_, rfl, continues_of_revise writes sound found decoded now _,
        .inr ⟨operation, revision, rfl, writes, rfl⟩⟩
    · rw [if_neg same]
      exact ⟨stored, found, .refl _ _, .inl rfl⟩

/-- A turn adds no key but that of the reader whose turn it is. -/
theorem Turned.adds {turning : Option Operation} (turned : Turned uids memory after turning)
    {key : Key} (nothing : memory.find? key = none) (holds : after.Holds key) :
    ∃ operation consultation, turning = some operation ∧
      operation.consultation? = some consultation ∧ consultation.key = key := by
  obtain ⟨later, there⟩ := holds
  cases turned with
  | silent same =>
    have missing := (same ▸ nothing : after.find? key = none).symm.trans there
    contradiction
  | @created operation consultation reads _ written =>
    rw [written, Memory.find?_write] at there
    split at there
    · next same => exact ⟨operation, consultation, rfl, reads, same.symm⟩
    · have missing := nothing.symm.trans there
      contradiction
  | @revised operation revision writes held heldFound document decoded now own written =>
    rw [written, Memory.find?_write, own] at there
    split at there
    · next same =>
      subst same
      have missing := nothing.symm.trans heldFound
      contradiction
    · have missing := nothing.symm.trans there
      contradiction

section Runs

variable (underway : Underway clock .all operations (contest clock memory operations))
  (onStates : ∀ operation ∈ operations, operation.OnStates)

include underway onStates

/-- A run leaves an entry as it is, or operations of the contest write later forms of it. -/
theorem run_continues (before after : List Nat) {key : Key} {stored : Stored}
    (found : ((contest clock memory operations).run (Memory.repository uids) clock
      before).world.state.find? key = some stored) :
    ∃ later, ((contest clock memory operations).run (Memory.repository uids) clock
        (before ++ after)).world.state.find? key = some later ∧ stored.Continues key later ∧
      (later = stored ∨ ∃ operation ∈ operations, ∃ revision,
        operation.revision? = some revision ∧ revision.key = key) := by
  induction after generalizing before stored with
  | nil => exact ⟨stored, by rwa [List.append_nil], .refl _ _, .inl rfl⟩
  | cons number rest ih =>
    have turn := contest_turned uids underway onStates before number
    have sound := (underway.run uids before).sound
    obtain ⟨middle, there, continues, first⟩ := turn.continues sound found
    obtain ⟨later, last, again, others⟩ := ih (before ++ [number]) there
    rw [List.append_cons]
    refine ⟨later, last, continues.trans again, ?_⟩
    obtain rfl | ⟨operation, revision, entered, writes, same⟩ := first
    · exact others
    · exact .inr ⟨operation, List.mem_of_getElem? entered, revision, writes, same⟩

/-- A run adds no key but those of the readers of the contest. -/
theorem run_adds (before after : List Nat) {key : Key}
    (nothing : ((contest clock memory operations).run (Memory.repository uids) clock
      before).world.state.find? key = none)
    (holds : ((contest clock memory operations).run (Memory.repository uids) clock
      (before ++ after)).world.state.Holds key) :
    ∃ operation ∈ operations, ∃ consultation,
      operation.consultation? = some consultation ∧ consultation.key = key := by
  induction after generalizing before with
  | nil =>
    rw [List.append_nil] at holds
    exact absurd nothing holds.ne_none
  | cons number rest ih =>
    have turn := contest_turned uids underway onStates before number
    rw [List.append_cons] at holds
    cases there : ((contest clock memory operations).run (Memory.repository uids) clock
        (before ++ [number])).world.state.find? key with
    | none => exact ih (before ++ [number]) there holds
    | some stored =>
      obtain ⟨operation, consultation, entered, reads, same⟩ := turn.adds nothing ⟨stored, there⟩
      exact ⟨operation, List.mem_of_getElem? entered, consultation, reads, same⟩

end Runs

/-- Whatever turns operations on states and jobs take in a store that documents were decoded into,
each turn changes nothing, creates the state of a reader, or writes what a writer makes of the
document that is stored. So a document stays stored, and only writers of its key change it, and
change nothing but its version and what operations know of its specification. Only states of
readers are added. -/
theorem documents_keep_identity (uids : Nat → String) (clock : Clock)
    (reached : Reachable uids .all memory)
    (onStates : ∀ operation ∈ operations, operation.OnStates) :
    let storeAfter := fun schedule : List Nat =>
      ((contest clock memory operations).run (Memory.repository uids) clock schedule).world.state
    (∀ before number,
      Turned uids (storeAfter before) (storeAfter (before ++ [number])) operations[number]?) ∧
      ∀ (before after : List Nat) (key : Key),
        (∀ stored, (storeAfter before).find? key = some stored →
          (∃ document, stored.Shows .all key document) ∧
            ∃ later, (storeAfter (before ++ after)).find? key = some later ∧
              stored.Continues key later ∧
              (later = stored ∨ ∃ operation ∈ operations, ∃ revision,
                operation.revision? = some revision ∧ revision.key = key)) ∧
        ((storeAfter before).find? key = none → (storeAfter (before ++ after)).Holds key →
          key.kind = .checkState ∧ ∃ operation ∈ operations, ∃ consultation,
            operation.consultation? = some consultation ∧ consultation.key = key) := by
  intro storeAfter
  have admitted (operation : Operation) (entered : operation ∈ operations) :
      operation.Admitted .all := admitted_of_onStates (onStates operation entered)
  have underway : Underway clock .all operations (contest clock memory operations) :=
    contest_underway Vocabulary.all_stable (reached.sound Vocabulary.all_stable)
      (fun _ => trivial) admitted
  refine ⟨contest_turned uids underway onStates, fun before after key => ⟨?_, ?_⟩⟩
  · intro stored found
    exact ⟨(underway.run uids before).sound.shows key stored found,
      run_continues underway onStates before after found⟩
  · intro nothing holds
    obtain ⟨operation, entered, consultation, reads, rfl⟩ :=
      run_adds underway onStates before after nothing holds
    exact ⟨rfl, operation, entered, consultation, reads, rfl⟩

/-- A job whose phase was changed has got another version, and is still the job that was
submitted. -/
theorem nightly_keeps_identity :
    let key : Key := ⟨.checkJob, "nightly", "health"⟩
    let ended := ((contest default nightlyStored [.setPhase "nightly" "health" .running]).run
      (Memory.repository toString) default [0, 0]).world.state
    ∃ stored later, nightlyStored.find? key = some stored ∧ ended.find? key = some later ∧
      stored.version = 1 ∧ later.version = 2 ∧ stored.Continues key later := by
  intro key ended
  have onStates : ∀ operation ∈ [Operation.setPhase "nightly" "health" .running],
      operation.OnStates := List.forall_mem_singleton.2 trivial
  obtain ⟨-, keeps⟩ := documents_keep_identity toString default nightlyStored_reachable onStates
  obtain ⟨-, later, there, continues, -⟩ := (keeps [] [0, 0] key).1 _ rfl
  have version : (ended.find? key).map (·.version) = some 2 := by with_unfolding_all rfl
  have found : ended.find? key = some later := there
  rw [found] at version
  exact ⟨_, later, rfl, found, rfl, Option.some.inj version, continues⟩

end HealthLedger.State
