import HealthLedger.Proofs.Http.Marks
import HealthLedger.Proofs.Http.Requests

/-!
# Servers that mirror a store in memory

A server and a store in memory mirror each other (`Client.Mirrors`) if they have the same keys
and the server has under each of them what the client sees of the document in the store. Calls
that are alike are answered alike, and leave a server and a store behind that mirror each other
(`Mirrors.perform`). What a call answers has been stamped or stored, so it can be sent again.
-/

namespace HealthLedger.Http

open Json (Value Members Object)
open Document (Kind Key Resource Metadata Vocabulary)
open Store (Call Answer Memory Error Reason Repository Stored)

/-- The documents that come back as they were from every store. -/
def readable : Vocabulary := .ofTokens Time.Instant.Readable

/-- What documents speak of that come back as they were is legible. -/
theorem readable_legible (kind : Kind) : readable.Legible kind :=
  Vocabulary.ofTokens_legible (fun _ spoken => spoken) kind

namespace Client

variable {client : Client} {origin : Origin} {kind : Kind} {document : Resource kind}
  {uids served : Nat → String} {api : Api} {memory : Memory}

/-- A client that is told that nothing was found answers so. -/
theorem answer_missing (call : Call kind) :
    answer call (some (Api.refused 404 "not found")) = .error ⟨call.key, .notFound⟩ := rfl

/-- A client that is told that there is a conflict answers what this means for the call. -/
theorem answer_conflict (call : Call kind) (message : String) :
    answer call (some (Api.refused 409 message)) = .error ⟨call.key, conflictReason call⟩ := rfl

/-- A client that is told that a new document carries a version answers so. -/
theorem answer_versioned (call : Call kind) :
    answer call (some (Api.refused 400 Memory.versionedCreate)) =
      .error ⟨call.key, .api 400 Memory.versionedCreate⟩ := by
  have complaint : (Api.refused 400 Memory.versionedCreate).complaint = Memory.versionedCreate := by
    decide +kernel
  have read : (readResponse call (Api.refused 400 Memory.versionedCreate)) =
      .error (.api 400 (Api.refused 400 Memory.versionedCreate).complaint) := rfl
  rw [answer, read, complaint]
  rfl

/-- A client that is shown a sound document answers with it. -/
theorem answer_shown (call : Call kind) (sound : document.Sound readable)
    (sendable : document.Sendable) {status : Nat} (fine : status = 200 ∨ status = 201) :
    answer call (some (Api.shown status document.toValue)) = .ok document := by
  have decoded := sendable.decodeText (sound.ofValue_toValue (readable_legible kind))
  have content : (Api.shown status document.toValue).content? =
      some (Text.Utf8.encode document.toValue.text) := by
    rcases fine with rfl | rfl <;> rfl
  have read : readResponse call (Api.shown status document.toValue) =
      readDocument kind (Api.shown status document.toValue) := by
    rcases fine with rfl | rfl <;> rfl
  rw [answer, read, readDocument, content]
  simp only [decoded]
  rfl

/-- A call is the same as another one for a store: their documents, if they have any, are alike. -/
inductive Relayed (client : Client) : Call kind → Call kind → Prop
  /-- Both get the same document. -/
  | get (name space : String) : Relayed client (.get name space) (.get name space)
  /-- Both store the same document. -/
  | create {left right : Resource kind} (space : String) (alike : client.Alike left right) :
      Relayed client (.create left space) (.create right space)
  /-- Both put the same document in the place of another one. -/
  | update {left right : Resource kind} (space : String) (alike : client.Alike left right) :
      Relayed client (.update left space) (.update right space)

/-- Calls that are alike address the same key. -/
theorem Relayed.key {left right : Call kind} (relayed : client.Relayed left right) :
    left.key = right.key := by
  cases relayed with
  | get => rfl
  | create space alike => simp only [Call.key, Resource.keyIn, alike.name]
  | update space alike => simp only [Call.key, Resource.keyIn, alike.name]

/-- Calls that are alike have the same address. -/
theorem Relayed.address {left right : Call kind} (relayed : client.Relayed left right) :
    client.address left = client.address right := by
  have key := relayed.key
  cases relayed with
  | get => rfl
  | create => rfl
  | update => exact congrArg client.objectAddress key

/-- A client answers as a store in memory does: with the same error, or with what it sees of the
document that the store answers with, which can be sent again. The identities of both were given
with the same version. -/
inductive Answered (client : Client) (served uids : Nat → String) :
    Answer kind → Answer kind → Prop
  /-- Both calls have failed for the same reason. -/
  | failed (error : Error) : Answered client served uids (.error error) (.error error)
  /-- Both calls were answered with the same document. -/
  | shown (document : Resource kind) (born : Nat) (uid : document.metadata.uid = some (uids born))
      (sound : document.Sound readable) (sendable : document.Sendable) :
      Answered client served uids (.ok (client.seen document (served born))) (.ok document)

/-- The server has under every key what the client sees of the document in the store. -/
structure Mirrors (client : Client) (served uids : Nat → String) (api : Api) (memory : Memory) :
    Prop where
  /-- Both have written as often. -/
  lastVersion : api.lastVersion = memory.lastVersion
  /-- The server has nothing where the store has nothing. -/
  absent : ∀ key, memory.find? key = none → api.objects key = none
  /-- The server has what the client sees of the document in the store, which can be sent. -/
  present : ∀ key stored, memory.find? key = some stored →
    ∃ (document : Resource key.kind) (born : Nat), stored.Shows readable key document ∧
      stored.uid = uids born ∧ document.Sendable ∧
      api.objects key = some (client.seen document (served born)).toValue

/-- A server and a store with nothing in them mirror each other. -/
theorem empty_mirrors (client : Client) (served uids : Nat → String) :
    client.Mirrors served uids Api.empty Memory.empty :=
  ⟨rfl, fun _ _ => rfl, fun _ _ found => by simp [Memory.find?, Memory.empty] at found⟩

/-- A server and a store mirror each other when they have written what is alike. -/
theorem Mirrors.write (mirrors : client.Mirrors served uids api memory) {left right : Resource kind}
    (alike : client.Alike left right) (sound : right.Sound readable) (sendable : right.Sendable)
    (space : String) (status born : Nat) :
    (api.write status (left.keyIn space) (client.bodyOf left space) (served born)).1 =
        Api.shown status (client.seen
          (Memory.stamp right space (memory.lastVersion + 1) (uids born)) (served born)).toValue ∧
      client.Mirrors served uids
        (api.write status (left.keyIn space) (client.bodyOf left space) (served born)).2
        (memory.write right space (uids born)).2 := by
  have kept := alike.stamped (alike.sound sound).framed space (memory.lastVersion + 1)
    (uids born) (served born)
  have keys : left.keyIn space = right.keyIn space := by
    rw [Resource.keyIn, Resource.keyIn, alike.name]
  refine ⟨?_, ?_, fun key nothing => ?_, fun key stored found => ?_⟩
  · rw [← kept, ← mirrors.lastVersion]
    rfl
  · exact congrArg (· + 1) mirrors.lastVersion
  · rw [Memory.find?_write] at nothing
    split at nothing
    · contradiction
    · next other =>
      simp only [Api.write, keys, if_neg other]
      exact mirrors.absent key nothing
  · rw [Memory.find?_write] at found
    split at found
    · next same =>
      subst same
      obtain rfl := Option.some.inj found
      refine ⟨_, born, Memory.stamp_shows sound space _ _, rfl,
        stamp_sendable sendable _ _ _, ?_⟩
      simp only [Api.write, keys, if_true]
      rw [mirrors.lastVersion]
      exact congrArg some kept
    · next other =>
      simp only [Api.write, keys, if_neg other]
      exact mirrors.present key stored found

/-- The key of a call is made of labels, and its address is not too long to be asked. -/
structure Reaches (client : Client) (call : Call kind) : Prop where
  /-- The key is made of labels. -/
  plain : Plain call.key
  /-- The address is not too long. -/
  short : (client.address call).length ≤ Url.maxLength

/-- The document of a call, if it has one, comes back as it was from every store. -/
def Carries : Call kind → Prop
  | .get _ _ => True
  | .create document _ => document.Sound readable ∧ document.Sendable
  | .update document _ => document.Sound readable ∧ document.Sendable

/-- A get is answered alike. -/
theorem Mirrors.get (mirrors : client.Mirrors served uids api memory) (at' : client.At origin)
    {name space : String} (reaches : client.Reaches (.get name space : Call kind))
    {answer : Answer kind} {after : Memory}
    (move : Memory.Move uids memory (.get name space) answer after) :
    client.Answered served uids
        (client.perform (client.server served) (.get name space) api).1 answer ∧
      client.Mirrors served uids
        (client.perform (client.server served) (.get name space : Call kind) api).2 after := by
  rw [perform_get at' reaches.plain reaches.short]
  cases move with
  | absent nothing =>
    rw [Api.get, mirrors.absent _ nothing, answer_missing]
    exact ⟨.failed _, mirrors⟩
  | garbled found failed =>
    obtain ⟨document, born, shown, -, -, -⟩ := mirrors.present _ _ found
    rw [shown.body, Document.Decoder.decodeValue,
      shown.sound.ofValue_toValue (readable_legible kind)] at failed
    contradiction
  | fetched found decoded =>
    obtain ⟨document, born, shown, uid, sendable, held⟩ := mirrors.present _ _ found
    rw [shown.body, Document.Decoder.decodeValue,
      shown.sound.ofValue_toValue (readable_legible kind)] at decoded
    obtain rfl := Except.ok.inj decoded
    rw [Api.get, held, answer_shown _ (client.seen_sound shown.sound _)
      (client.seen_sendable sendable _) (.inl rfl)]
    exact ⟨.shown _ born (uid ▸ shown.uid) shown.sound sendable, mirrors⟩

/-- A create is answered alike. -/
theorem Mirrors.create (mirrors : client.Mirrors served uids api memory) (at' : client.At origin)
    {left right : Resource kind} (alike : client.Alike left right) {space : String}
    (sound : right.Sound readable) (sendable : right.Sendable)
    (reaches : client.Reaches (.create left space)) {answer : Answer kind} {after : Memory}
    (move : Memory.Move uids memory (.create right space) answer after) :
    client.Answered served uids
        (client.perform (client.server served) (.create left space) api).1 answer ∧
      client.Mirrors served uids
        (client.perform (client.server served) (.create left space) api).2 after := by
  have framed := (alike.sound sound).framed
  have arrives := client.bodyOf_arrives framed (alike.sendable sendable) space
  have name := client.bodyOf_name framed space
  have version := client.bodyOf_version framed space
  rw [alike.version] at version
  have key : (Call.create left space).key = right.keyIn space := (Relayed.create space alike).key
  have objects : api.objects ⟨kind, left.name, space⟩ = api.objects (right.keyIn space) :=
    congrArg api.objects key
  rw [perform_create at' reaches.plain reaches.short arrives]
  cases move with
  | versioned carried =>
    rw [Api.post_versioned (version ▸ carried), answer_versioned, key]
    exact ⟨.failed _, mirrors⟩
  | taken fresh found =>
    obtain ⟨document, born, -, -, -, held⟩ := mirrors.present _ _ found
    rw [Api.post_taken (version.trans fresh) name (objects.trans held), answer_conflict, key]
    exact ⟨.failed _, mirrors⟩
  | created fresh nothing =>
    have free := mirrors.absent _ nothing
    have written := mirrors.write alike sound sendable space 201 (memory.lastVersion + 1)
    have stamped := Memory.stamp_sound sound space (memory.lastVersion + 1)
      (uids (memory.lastVersion + 1))
    have kept := stamp_sendable sendable space (memory.lastVersion + 1)
      (uids (memory.lastVersion + 1))
    rw [Api.post_free (version.trans fresh) name (objects.trans free), mirrors.lastVersion]
    refine ⟨?_, written.2⟩
    change client.Answered served uids
      (answer _ (some (api.write 201 (left.keyIn space) _ _).1)) _
    rw [written.1, answer_shown _ (client.seen_sound stamped _) (client.seen_sendable kept _)
      (.inr rfl)]
    exact .shown _ _ rfl stamped kept

/-- An update is answered alike. -/
theorem Mirrors.update (mirrors : client.Mirrors served uids api memory) (at' : client.At origin)
    {left right : Resource kind} (alike : client.Alike left right) {space : String}
    (sound : right.Sound readable) (sendable : right.Sendable)
    (reaches : client.Reaches (.update left space)) {answer : Answer kind} {after : Memory}
    (move : Memory.Move uids memory (.update right space) answer after) :
    client.Answered served uids
        (client.perform (client.server served) (.update left space) api).1 answer ∧
      client.Mirrors served uids
        (client.perform (client.server served) (.update left space) api).2 after := by
  have framed := (alike.sound sound).framed
  have arrives := client.bodyOf_arrives framed (alike.sendable sendable) space
  have version := client.bodyOf_version framed space
  rw [alike.version] at version
  have key : (Call.update left space).key = right.keyIn space := (Relayed.update space alike).key
  have objects : api.objects (left.keyIn space) = api.objects (right.keyIn space) :=
    congrArg api.objects key
  rw [perform_update at' reaches.plain reaches.short arrives]
  cases move with
  | lost nothing =>
    rw [Api.put_missing (objects.trans (mirrors.absent _ nothing)), answer_missing, key]
    exact ⟨.failed _, mirrors⟩
  | stale found other =>
    obtain ⟨document, born, shown, -, -, held⟩ := mirrors.present _ _ found
    have carried := Api.metadataText?_version (client.seen_sound shown.sound (served born)).framed
    have different : Api.metadataText? "resourceVersion" (client.bodyOf left space) ≠
        Api.metadataText? "resourceVersion" (client.seen document (served born)).toValue := by
      rw [version, carried]
      exact fun equal => other (equal.trans shown.version)
    rw [Api.put_stale (objects.trans held) different, answer_conflict, key]
    exact ⟨.failed _, mirrors⟩
  | updated found current =>
    obtain ⟨document, born, shown, uid, -, held⟩ := mirrors.present _ _ found
    have seen := (client.seen_sound shown.sound (served born)).framed
    have equal : Api.metadataText? "resourceVersion" (client.bodyOf left space) =
        Api.metadataText? "resourceVersion" (client.seen document (served born)).toValue := by
      rw [version, Api.metadataText?_version seen]
      exact current.trans shown.version.symm
    have written := mirrors.write alike sound sendable space 200 born
    have stamped := Memory.stamp_sound sound space (memory.lastVersion + 1) (uids born)
    have kept := stamp_sendable sendable space (memory.lastVersion + 1) (uids born)
    rw [Api.put_current (objects.trans held) equal (Api.metadataText?_uid seen), uid]
    refine ⟨?_, written.2⟩
    rw [written.1, answer_shown _ (client.seen_sound stamped _) (client.seen_sendable kept _)
      (.inl rfl)]
    exact .shown _ born rfl stamped kept

/-- Calls that are alike are answered alike by a server and a store that mirror each other, and
leave a server and a store behind that do. -/
theorem Mirrors.perform (mirrors : client.Mirrors served uids api memory)
    (at' : client.At origin) {left right : Call kind} (relayed : client.Relayed left right)
    (carries : Carries right) (reaches : client.Reaches right) :
    client.Answered served uids (client.perform (client.server served) left api).1
        (Memory.perform uids right memory).1 ∧
      client.Mirrors served uids (client.perform (client.server served) left api).2
        (Memory.perform uids right memory).2 := by
  have move := Memory.perform_move uids memory right
  have reached : client.Reaches left :=
    ⟨relayed.key ▸ reaches.plain, relayed.address ▸ reaches.short⟩
  cases relayed with
  | get => exact mirrors.get at' reached move
  | create space alike => exact mirrors.create at' alike carries.1 carries.2 reached move
  | update space alike => exact mirrors.update at' alike carries.1 carries.2 reached move

end Client

end HealthLedger.Http
