import HealthLedger.Proofs.Store.History

/-!
# The journal of a store in memory

Clients make calls one after the other, in any order, and the journal lists the calls with their
answers. What the store holds is accounted for by the journal (`Accounts`): a call writes nothing
or one document (`Memory.Effect`), and what every call keeps holds after all of them. So behind
every sequence of calls with decoded documents the store holds under every key the document that
the last write of the key returned, counts the writes and the keys, and answers every get with a
document or finds nothing (`Memory.represents_last_writes`).
-/

namespace HealthLedger.Store

open Document (Kind Key Resource CheckState Details Vocabulary)

/-- Whether a call is a create or an update. -/
def Call.isWrite {kind : Kind} (call : Call kind) : Bool := call.isCreate || call.isUpdate

/-- A call and the number of the client that makes it. -/
structure Request where
  /-- The number of the client. -/
  client : Nat
  /-- The kind of document. -/
  kind : Kind
  /-- The call. -/
  call : Call kind

/-- The exchanges of calls that are made one after the other, and the store behind them. -/
def Memory.serve (uids : Nat → String) : List Request → Memory → List Exchange × Memory
  | [], memory => ([], memory)
  | ⟨client, kind, call⟩ :: rest, memory =>
    let (answer, after) := perform uids call memory
    let (journal, last) := serve uids rest after
    (⟨client, kind, call, answer⟩ :: journal, last)

namespace Exchange

/-- Whether a document was written: by a create or an update that succeeded. -/
def isWritten (exchange : Exchange) : Bool := exchange.request.isWrite && exchange.answer.isOk

/-- Whether a document was written by a create that succeeded. -/
def isCreated (exchange : Exchange) : Bool := exchange.request.isCreate && exchange.answer.isOk

/-- The exchange is a write of a key that succeeded and returned a document. -/
def Wrote (key : Key) (document : Resource key.kind) (exchange : Exchange) : Prop :=
  ∃ client request, exchange = ⟨client, key.kind, request, .ok document⟩ ∧ request.isWrite ∧
    request.key = key

variable {key other : Key} {document : Resource key.kind} {exchange : Exchange}

/-- A write is one of the key that was asked for. -/
theorem Wrote.key_eq (wrote : exchange.Wrote key document) : exchange.request.key = key := by
  obtain ⟨client, request, rfl, -, same⟩ := wrote
  exact same

/-- A write returns one document. -/
theorem Wrote.unique {again : Resource key.kind} (wrote : exchange.Wrote key document)
    (wroteAgain : exchange.Wrote key again) : document = again := by
  obtain ⟨client, request, rfl, -⟩ := wrote
  obtain ⟨_, _, same, -⟩ := wroteAgain
  simp only [Exchange.mk.injEq, heq_eq_eq, true_and] at same
  exact Except.ok.inj same.2.2

/-- A write of a key is none of another one. -/
theorem Wrote.not_of_ne (wrote : exchange.Wrote key document) (different : other ≠ key)
    (another : Resource other.kind) : ¬ exchange.Wrote other another :=
  fun wroteOther => different (wroteOther.key_eq.symm.trans wrote.key_eq)

/-- A write that the last exchange is not comes before it. -/
theorem Wrote.mem_of_concat {journal : List Exchange} {last : Exchange}
    (wrote : exchange.Wrote key document) (there : exchange ∈ journal ++ [last])
    (different : ¬ last.Wrote key document) : exchange ∈ journal := by
  rcases List.mem_append.1 there with earlier | new
  · exact earlier
  · obtain rfl := List.mem_singleton.1 new
    exact absurd wrote different

/-- What has written a document is a write. -/
theorem Wrote.isWritten (wrote : exchange.Wrote key document) : exchange.isWritten = true := by
  obtain ⟨client, request, rfl, isWrite, -⟩ := wrote
  simp [Exchange.isWritten, isWrite, Except.isOk, Except.toBool]

end Exchange

/-- The last write of a key in a journal that succeeded has returned this document. -/
def LastWritten (key : Key) (document : Resource key.kind) (journal : List Exchange) : Prop :=
  ∃ before exchange after, journal = before ++ exchange :: after ∧ exchange.Wrote key document ∧
    ∀ later ∈ after, ∀ other, ¬ later.Wrote key other

/-- A write is the last one of its key at the end of a journal. -/
theorem LastWritten.concat_self {key : Key} {document : Resource key.kind} {exchange : Exchange}
    (wrote : exchange.Wrote key document) (journal : List Exchange) :
    LastWritten key document (journal ++ [exchange]) :=
  ⟨journal, exchange, [], rfl, wrote, fun _ later => absurd later List.not_mem_nil⟩

/-- The last write of a key stays the last one as long as the key is not written. -/
theorem LastWritten.concat {key : Key} {document : Resource key.kind} {journal : List Exchange}
    (last : LastWritten key document journal) {exchange : Exchange}
    (other : ∀ document, ¬ exchange.Wrote key document) :
    LastWritten key document (journal ++ [exchange]) := by
  obtain ⟨before, written, after, rfl, wrote, none⟩ := last
  refine ⟨before, written, after ++ [exchange], by simp, wrote, fun later found => ?_⟩
  rcases List.mem_append.1 found with earlier | new
  · exact none later earlier
  · obtain rfl := List.mem_singleton.1 new
    exact other

namespace Memory

variable {uids : Nat → String} {memory after : Memory} {kind : Kind} {call : Call kind}
  {answer : Answer kind} {vocabulary : Vocabulary}

/-- A call writes nothing, or one document under its key with the next version. -/
inductive Effect (memory : Memory) {kind : Kind} : Call kind → Answer kind → Memory → Prop
  /-- Nothing is written. -/
  | silent {call : Call kind} {answer : Answer kind}
      (unwritten : (call.isWrite && answer.isOk) = false) : Effect memory call answer memory
  /-- A document is written under a key that has none. -/
  | created {document : Resource kind} {space : String} (uid : String)
      (nothing : memory.find? (document.keyIn space) = none) :
      Effect memory (.create document space)
        (.ok (stamp document space (memory.lastVersion + 1) uid))
        (memory.write document space uid).2
  /-- A document takes the place of the one whose version it carries, and has its identity. -/
  | updated {document : Resource kind} {space : String} {stored : Stored}
      (found : memory.find? (document.keyIn space) = some stored)
      (current : document.version = some (toString stored.version)) :
      Effect memory (.update document space)
        (.ok (stamp document space (memory.lastVersion + 1) stored.uid))
        (memory.write document space stored.uid).2

/-- What a call does is one of its effects. -/
theorem Move.effect (move : Move uids memory call answer after) :
    Effect memory call answer after := by
  cases move with
  | absent | garbled | fetched | versioned | taken | lost | stale => exact .silent rfl
  | created fresh nothing => exact .created _ nothing
  | updated found current => exact .updated found current

/-- A key is put in the place where it stands, or behind all others. -/
theorem length_insert (key : Key) (stored : Stored) (objects : List (Key × Stored)) :
    (insert key stored objects).length =
      if (objects.lookup key).isSome then objects.length else objects.length + 1 := by
  induction objects with
  | nil => rfl
  | cons first rest ih =>
    obtain ⟨other, held⟩ := first
    by_cases same : other = key
    · subst same
      simp [insert]
    · have different : (key == other) = false := beq_eq_false_iff_ne.2 (Ne.symm same)
      simp only [insert, if_neg same, List.length_cons, ih, List.lookup_cons, different]
      split <;> rfl

/-- The keys after a key was put in: the same ones, or this one more. -/
theorem mem_keys_insert {key other : Key} {stored : Stored} {objects : List (Key × Stored)} :
    other ∈ (insert key stored objects).map (·.1) ↔ other = key ∨ other ∈ objects.map (·.1) := by
  induction objects with
  | nil => simp [insert]
  | cons first rest ih =>
    obtain ⟨head, held⟩ := first
    by_cases same : head = key
    · subst same
      simp [insert]
    · simp only [insert, if_neg same, List.map_cons, List.mem_cons, ih]
      exact or_left_comm

/-- No key is stored twice after one was put in. -/
theorem nodup_keys_insert {objects : List (Key × Stored)} (once : (objects.map (·.1)).Nodup)
    (key : Key) (stored : Stored) : ((insert key stored objects).map (·.1)).Nodup := by
  induction objects with
  | nil => simp [insert]
  | cons first rest ih =>
    obtain ⟨head, held⟩ := first
    obtain ⟨fresh, others⟩ := List.nodup_cons.1 once
    by_cases same : head = key
    · subst same
      simpa [insert] using once
    · simp only [insert, if_neg same, List.map_cons]
      refine List.nodup_cons.2 ⟨fun found => ?_, ih others⟩
      rcases mem_keys_insert.1 found with alike | there
      · exact same alike
      · exact fresh there

/-- Writing puts one more document under a key that had none. -/
theorem size_write_of_none {document : Resource kind} {space : String} (uid : String)
    (nothing : memory.find? (document.keyIn space) = none) :
    (memory.write document space uid).2.size = memory.size + 1 := by
  have length := length_insert (document.keyIn space) ⟨memory.lastVersion + 1, uid,
    (stamp document space (memory.lastVersion + 1) uid).toValue⟩ memory.objects
  rw [find?] at nothing
  rw [nothing] at length
  exact length

/-- Writing in the place of a document keeps the number of documents. -/
theorem size_write_of_some {document : Resource kind} {space : String} (uid : String)
    {stored : Stored} (found : memory.find? (document.keyIn space) = some stored) :
    (memory.write document space uid).2.size = memory.size := by
  have length := length_insert (document.keyIn space) ⟨memory.lastVersion + 1, uid,
    (stamp document space (memory.lastVersion + 1) uid).toValue⟩ memory.objects
  rw [find?] at found
  rw [found] at length
  exact length

end Memory

/-- A journal accounts for what a store holds. -/
structure Accounts (vocabulary : Vocabulary) (journal : List Exchange) (memory : Memory) :
    Prop where
  /-- The store is sound. -/
  sound : memory.Sound vocabulary
  /-- Every entry shows the document that the last write of its key returned. -/
  written : ∀ key stored, memory.find? key = some stored →
    ∃ document : Resource key.kind, stored.Shows vocabulary key document ∧
      LastWritten key document journal
  /-- A key under which nothing is stored was not written. -/
  unwritten : ∀ key, memory.find? key = none →
    ∀ exchange ∈ journal, ∀ document, ¬ exchange.Wrote key document
  /-- Every write of a key has returned the identity of its entry. -/
  identity : ∀ key stored, memory.find? key = some stored →
    ∀ exchange ∈ journal, ∀ document, exchange.Wrote key document →
      document.metadata.uid = some stored.uid
  /-- Versions count from one. -/
  positive : ∀ key stored, memory.find? key = some stored → 1 ≤ stored.version
  /-- No key is stored twice. -/
  once : (memory.objects.map (·.1)).Nodup
  /-- The last version is the number of writes. -/
  writes : memory.lastVersion = journal.countP (·.isWritten)
  /-- The number of documents is the number of creates. -/
  creates : memory.size = journal.countP (·.isCreated)

namespace Accounts

variable {uids : Nat → String} {vocabulary : Vocabulary} {journal : List Exchange}
  {memory after : Memory} {kind : Kind} {call : Call kind} {answer : Answer kind}

/-- Nothing accounts for the empty store. -/
theorem empty (vocabulary : Vocabulary) : Accounts vocabulary [] Memory.empty := by
  constructor
  · exact Memory.empty_sound vocabulary
  · exact fun key stored found => nomatch found
  · exact fun key _ exchange there => nomatch there
  · exact fun key stored found => nomatch found
  · exact fun key stored found => nomatch found
  · exact List.nodup_nil
  · rfl
  · rfl

/-- An exchange that writes nothing changes nothing of the account. -/
theorem silent (accounts : Accounts vocabulary journal memory) {exchange : Exchange}
    (unwritten : exchange.isWritten = false) :
    Accounts vocabulary (journal ++ [exchange]) memory := by
  have none (key : Key) (document : Resource key.kind) : ¬ exchange.Wrote key document := by
    intro wrote
    have written := wrote.isWritten
    rw [unwritten] at written
    contradiction
  have notCreated : exchange.isCreated = false := by
    cases created : exchange.isCreated with
    | false => rfl
    | true =>
      simp only [Exchange.isCreated, Bool.and_eq_true] at created
      simp [Exchange.isWritten, Call.isWrite, created] at unwritten
  constructor
  · exact accounts.sound
  · intro key stored found
    obtain ⟨document, shown, last⟩ := accounts.written key stored found
    exact ⟨document, shown, last.concat (none key)⟩
  · intro key nothing other there document wrote
    have earlier := wrote.mem_of_concat there (none key document)
    exact accounts.unwritten key nothing other earlier document wrote
  · intro key stored found other there document wrote
    have earlier := wrote.mem_of_concat there (none key document)
    exact accounts.identity key stored found other earlier document wrote
  · exact accounts.positive
  · exact accounts.once
  · rw [List.countP_append, accounts.writes]
    simp [unwritten]
  · rw [List.countP_append, accounts.creates]
    simp [notCreated]

/-- Behind a write the store holds under every key what the last write of the key has returned. -/
theorem written_write (accounts : Accounts vocabulary journal memory) {document : Resource kind}
    (soundDocument : document.Sound vocabulary) {space uid : String} {exchange : Exchange}
    (wrote : exchange.Wrote (document.keyIn space)
      (Memory.stamp document space (memory.lastVersion + 1) uid)) {key : Key} {stored : Stored}
    (found : (memory.write document space uid).2.find? key = some stored) :
    ∃ shown, stored.Shows vocabulary key shown ∧ LastWritten key shown (journal ++ [exchange]) := by
  rw [Memory.find?_write] at found
  split at found
  · next here =>
    subst here
    obtain rfl := Option.some.inj found
    exact ⟨_, Memory.stamp_shows soundDocument space _ uid, .concat_self wrote journal⟩
  · next different =>
    obtain ⟨shown, shows_, last⟩ := accounts.written key stored found
    exact ⟨shown, shows_, last.concat (wrote.not_of_ne different)⟩

/-- Behind a write all writes of a key have returned the identity that is stored, if this holds of
the earlier writes of the key that is written. -/
theorem identity_write (accounts : Accounts vocabulary journal memory) {document : Resource kind}
    {space uid : String} {exchange : Exchange}
    (wrote : exchange.Wrote (document.keyIn space)
      (Memory.stamp document space (memory.lastVersion + 1) uid))
    (same : ∀ earlier ∈ journal, ∀ other, earlier.Wrote (document.keyIn space) other →
      other.metadata.uid = some uid) {key : Key} {stored : Stored}
    (found : (memory.write document space uid).2.find? key = some stored) {other : Exchange}
    (there : other ∈ journal ++ [exchange]) {written : Resource key.kind}
    (wroteOther : other.Wrote key written) : written.metadata.uid = some stored.uid := by
  rw [Memory.find?_write] at found
  split at found
  · next here =>
    subst here
    obtain rfl := Option.some.inj found
    rcases List.mem_append.1 there with earlier | new
    · exact same other earlier written wroteOther
    · obtain rfl := List.mem_singleton.1 new
      rw [← wrote.unique wroteOther]
      rfl
  · next different =>
    have earlier := wroteOther.mem_of_concat there (wrote.not_of_ne different written)
    exact accounts.identity key stored found other earlier written wroteOther

/-- An exchange that has written a sound document accounts for it, if earlier writes of its key
have returned the same identity. -/
theorem write (accounts : Accounts vocabulary journal memory) {document : Resource kind}
    (soundDocument : document.Sound vocabulary) {space uid : String} {exchange : Exchange}
    (wrote : exchange.Wrote (document.keyIn space)
      (Memory.stamp document space (memory.lastVersion + 1) uid))
    (same : ∀ earlier ∈ journal, ∀ other, earlier.Wrote (document.keyIn space) other →
      other.metadata.uid = some uid)
    (size : (memory.write document space uid).2.size =
      (journal ++ [exchange]).countP (·.isCreated)) :
    Accounts vocabulary (journal ++ [exchange]) (memory.write document space uid).2 := by
  constructor
  · exact accounts.sound.write soundDocument space uid
  · exact fun key stored found => accounts.written_write soundDocument wrote found
  · intro key nothing other there written wroteOther
    rw [Memory.find?_write] at nothing
    split at nothing
    · contradiction
    · next different =>
      have earlier := wroteOther.mem_of_concat there (wrote.not_of_ne different written)
      exact accounts.unwritten key nothing other earlier written wroteOther
  · exact fun key stored found other there written wroteOther =>
      accounts.identity_write wrote same found there wroteOther
  · intro key stored found
    rw [Memory.find?_write] at found
    split at found
    · obtain rfl := Option.some.inj found
      exact Nat.le_add_left 1 _
    · exact accounts.positive key stored found
  · exact Memory.nodup_keys_insert accounts.once _ _
  · have one : (journal ++ [exchange]).countP (·.isWritten) = memory.lastVersion + 1 := by
      rw [List.countP_append, accounts.writes]
      simp [wrote.isWritten]
    exact one.symm
  · exact size

/-- A call with a sound document is accounted for when it is put down with its answer. -/
theorem step (accounts : Accounts vocabulary journal memory)
    (effect : Memory.Effect memory call answer after) (sound : call.Sound vocabulary)
    (client : Nat) : Accounts vocabulary (journal ++ [⟨client, kind, call, answer⟩]) after := by
  cases effect with
  | silent unwritten => exact accounts.silent unwritten
  | @created document space uid nothing =>
    apply accounts.write sound
    · exact ⟨client, .create document space, rfl, rfl, rfl⟩
    · intro earlier there other wrote
      exact absurd wrote (accounts.unwritten _ nothing earlier there other)
    · rw [Memory.size_write_of_none uid nothing, List.countP_append, accounts.creates]
      rfl
  | @updated document space stored found current =>
    apply accounts.write sound
    · exact ⟨client, .update document space, rfl, rfl, rfl⟩
    · exact accounts.identity _ stored found
    · rw [Memory.size_write_of_some stored.uid found, List.countP_append, accounts.creates]
      rfl

/-- Calls with sound documents are accounted for when they are put down with their answers. -/
theorem serve (accounts : Accounts vocabulary journal memory) (uids : Nat → String)
    (calls : List Request) (sound : ∀ request ∈ calls, request.call.Sound vocabulary) :
    Accounts vocabulary (journal ++ (Memory.serve uids calls memory).1)
      (Memory.serve uids calls memory).2 := by
  induction calls generalizing journal memory with
  | nil => simpa [Memory.serve] using accounts
  | cons request rest ih =>
    obtain ⟨first, others⟩ := List.forall_mem_cons.1 sound
    have effect := (Memory.perform_move uids memory request.call).effect
    have whole := ih (accounts.step effect first request.client) others
    rwa [List.append_assoc] at whole

/-- The journal of calls with sound documents accounts for what they make of the empty store. -/
theorem of_serve (uids : Nat → String) {calls : List Request}
    (sound : ∀ request ∈ calls, request.call.Sound vocabulary) :
    Accounts vocabulary (Memory.serve uids calls .empty).1 (Memory.serve uids calls .empty).2 :=
  (Accounts.empty vocabulary).serve uids calls sound

end Accounts

/-- A store holds what a journal says, and its documents are read back as they were returned. -/
structure Memory.Represents (uids : Nat → String) (journal : List Exchange) (memory : Memory) :
    Prop where
  /-- What is stored under a key decodes to the document that the last write of the key returned,
  which has the name and the namespace of the key and the version and the identity of the
  entry. -/
  entry : ∀ key stored, memory.find? key = some stored →
    ∃ document : Resource key.kind, LastWritten key document journal ∧
      (Resource.decoder key.kind).decodeValue stored.body = .ok document ∧
      document.name = key.name ∧ document.metadata.space = key.space ∧
      document.version = some (toString stored.version) ∧
      document.metadata.uid = some stored.uid
  /-- Every write of a key, from the create on, has returned the identity of its entry. -/
  identity : ∀ key stored, memory.find? key = some stored →
    ∀ exchange ∈ journal, ∀ document, exchange.Wrote key document →
      document.metadata.uid = some stored.uid
  /-- Nothing is stored under exactly the keys that were not written. -/
  absent : ∀ key, memory.find? key = none ↔
    ∀ exchange ∈ journal, ∀ document, ¬ exchange.Wrote key document
  /-- Versions lie between one and the last one. -/
  range : ∀ key stored, memory.find? key = some stored →
    1 ≤ stored.version ∧ stored.version ≤ memory.lastVersion
  /-- Entries of different keys have different versions. -/
  distinct : ∀ key other stored held, memory.find? key = some stored →
    memory.find? other = some held → key ≠ other → stored.version ≠ held.version
  /-- No key is stored twice. -/
  once : (memory.objects.map (·.1)).Nodup
  /-- The last version is the number of creates and updates that succeeded. -/
  writes : memory.lastVersion = journal.countP (·.isWritten)
  /-- The number of documents is the number of creates that succeeded. -/
  creates : memory.size = journal.countP (·.isCreated)
  /-- A get finds nothing or is answered with a document. -/
  gets : ∀ (kind : Kind) (name space : String),
    (Memory.perform uids (.get name space : Call kind) memory).1 =
        .error ⟨⟨kind, name, space⟩, .notFound⟩ ∨
      ∃ document, (Memory.perform uids (.get name space : Call kind) memory).1 = .ok document

/-- A store that a journal accounts for represents it if what documents speak of is legible. -/
theorem Accounts.represents {vocabulary : Vocabulary} {journal : List Exchange} {memory : Memory}
    (accounts : Accounts vocabulary journal memory) (legible : ∀ kind, vocabulary.Legible kind)
    (uids : Nat → String) : memory.Represents uids journal := by
  constructor
  · intro key stored found
    obtain ⟨document, shown, last⟩ := accounts.written key stored found
    have read := shown.sound.ofValue_toValue (legible key.kind)
    rw [← shown.body] at read
    exact ⟨document, last, mapError_eq_ok_iff.2 read, shown.name, shown.space, shown.version,
      shown.uid⟩
  · exact accounts.identity
  · intro key
    refine ⟨accounts.unwritten key, fun unwritten => ?_⟩
    cases found : memory.find? key with
    | none => rfl
    | some stored =>
      obtain ⟨document, -, before, exchange, after, rfl, wrote, -⟩ :=
        accounts.written key stored found
      exact absurd wrote (unwritten exchange (by simp) document)
  · intro key stored found
    exact ⟨accounts.positive key stored found, accounts.sound.bounded key stored found⟩
  · intro key other stored held found there different same
    exact different (accounts.sound.distinct key other stored held found there same)
  · exact accounts.once
  · exact accounts.writes
  · exact accounts.creates
  · intro kind name space
    have move := Memory.perform_move uids memory (.get name space : Call kind)
    rcases move.get_legible (legible kind) accounts.sound with
      ⟨-, answer⟩ | ⟨stored, document, -, -, answer⟩
    · exact .inl answer
    · exact .inr ⟨document, answer⟩

/-- A call with a decoded document of readable instants is sound: the phase of a decoded job is
that of a token. -/
theorem Call.Decoded.sound_ofTokens {instants : Time.Instant → Prop} {kind : Kind}
    {call : Call kind} (decoded : call.Decoded (.ofInstants instants)) :
    call.Sound (.ofTokens instants) := by
  cases call with
  | get name space => trivial
  | create document space => exact decoded.1.sound_ofTokens decoded.2
  | update document space => exact decoded.1.sound_ofTokens decoded.2

/-- If instants are read back as they were written, then behind every sequence of calls with
decoded documents the empty store has become one that represents the journal of the calls. -/
theorem Memory.represents_last_writes (uids : Nat → String) (calls : List Request)
    (decoded : ∀ request ∈ calls,
      request.call.Decoded (.ofInstants Time.Instant.Readable)) :
    (serve uids calls .empty).2.Represents uids (serve uids calls .empty).1 := by
  have sound : ∀ request ∈ calls, request.call.Sound (.ofTokens Time.Instant.Readable) :=
    fun request there => (decoded request there).sound_ofTokens
  have accounts := Accounts.of_serve uids sound
  exact accounts.represents (Vocabulary.ofTokens_legible fun _ readable => readable) uids

/-- The state of a check that has run. -/
def pinged : CheckState := .new "ping" "" { Details.new .check with lastRun := some default }

/-- A state is created, and two clients update it that have both seen it in its first version. -/
def pings : List Request :=
  [⟨0, _, .create pinged "health"⟩,
   ⟨1, _, .update (Memory.stamp pinged "" 1 "") "health"⟩,
   ⟨2, _, .update (Memory.stamp pinged "" 1 "") "health"⟩]

/-- The documents of these calls were decoded. -/
theorem pings_decoded : ∀ request ∈ pings,
    request.call.Decoded (.ofInstants Time.Instant.Readable) := by
  have within : pinged.Within (.ofTokens Time.Instant.Readable) := by
    intro instant written
    obtain rfl := Option.some.inj written
    show Time.Instant.parse (default : Time.Instant).text = .ok default
    rfl
  have sound : pinged.Sound (.ofTokens Time.Instant.Readable) :=
    ⟨⟨Json.Object.empty_avoids _, trivial, Json.Object.empty_avoids _⟩, within⟩
  have legible := Vocabulary.ofTokens_legible (fun _ readable => readable) Kind.checkState
  have updated := (Memory.stamp_sound sound "" 1 "").decoded legible
  simp only [pings, List.forall_mem_cons]
  exact ⟨⟨sound.decoded legible, within⟩, ⟨updated, within⟩, ⟨updated, within⟩,
    fun _ none => nomatch none⟩

/-- The store holds what the first of the two has written. -/
theorem pings_represented :
    (∀ request ∈ pings, request.call.Decoded (.ofInstants Time.Instant.Readable)) ∧
      (Memory.serve toString pings .empty).2.Represents toString
        (Memory.serve toString pings .empty).1 :=
  ⟨pings_decoded, Memory.represents_last_writes toString pings pings_decoded⟩

end HealthLedger.Store
