import HealthLedger.Proofs.Document.Vocabulary
import HealthLedger.Store.Memory

/-!
# What a store in memory holds

`Memory.Move` says once what a call does to a store, with everything the store has checked.
From it follow the facts about all stores that calls with sound documents lead to: under every
key stands the value of a sound document of that key, which carries the version and the
identity of its entry, and the versions of the entries are different and at most the last one
(`Memory.Sound`). A call changes what is stored under its own key only, and only to a greater
version.
-/

namespace HealthLedger.Store

open Document (Kind Resource Key Decoder Vocabulary)

/-- Versions are written differently. -/
theorem toString_version_inj {first second : Nat} :
    (toString first : String) = toString second ↔ first = second := by
  refine ⟨fun same => ?_, fun same => same ▸ rfl⟩
  have digits : Nat.toDigits 10 first = Nat.toDigits 10 second := by
    rw [← Nat.toList_repr, ← Nat.toList_repr]
    exact congrArg String.toList same
  rw [← Nat.ofDigitChars_ten_toDigits (n := first), digits, Nat.ofDigitChars_ten_toDigits]

/-- Whether a call is an update. -/
def Call.isUpdate {kind : Kind} : Call kind → Bool
  | .update _ _ => true
  | _ => false

/-- Whether a call is a create. -/
def Call.isCreate {kind : Kind} : Call kind → Bool
  | .create _ _ => true
  | _ => false

/-- The document of a call, if it has one, is sound. -/
def Call.Sound (vocabulary : Vocabulary) {kind : Kind} : Call kind → Prop
  | .get _ _ => True
  | .create document _ => document.Sound vocabulary
  | .update document _ => document.Sound vocabulary

/-- The document of an answer, if it has one, is sound. -/
def Answer.Sound (vocabulary : Vocabulary) {kind : Kind} (answer : Answer kind) : Prop :=
  ∀ document, answer = .ok document → document.Sound vocabulary

namespace Memory

variable {uids : Nat → String} {memory after : Memory} {kind : Kind} {call : Call kind}
  {answer : Answer kind} {vocabulary : Vocabulary}

/-- A call, its answer and the store behind it, by what the store found. -/
inductive Move (uids : Nat → String) (memory : Memory) {kind : Kind} :
    Call kind → Answer kind → Memory → Prop
  /-- Nothing is stored under the key. -/
  | absent {name space : String} (nothing : memory.find? ⟨kind, name, space⟩ = none) :
    Move uids memory (.get name space) (.error ⟨⟨kind, name, space⟩, .notFound⟩) memory
  /-- What is stored is no document. -/
  | garbled {name space : String} {stored : Stored} {error : Document.DecodeError}
    (found : memory.find? ⟨kind, name, space⟩ = some stored)
    (failed : (Resource.decoder kind).decodeValue stored.body = .error error) :
    Move uids memory (.get name space) (.error ⟨⟨kind, name, space⟩, .codec error.message⟩) memory
  /-- A document is stored. -/
  | fetched {name space : String} {stored : Stored} {document : Resource kind}
    (found : memory.find? ⟨kind, name, space⟩ = some stored)
    (decoded : (Resource.decoder kind).decodeValue stored.body = .ok document) :
    Move uids memory (.get name space) (.ok document) memory
  /-- The new document carries a version. -/
  | versioned {document : Resource kind} {space : String} (carried : document.version.isSome) :
    Move uids memory (.create document space)
      (.error ⟨document.keyIn space, .api 400 versionedCreate⟩) memory
  /-- The key of the new document is taken. -/
  | taken {document : Resource kind} {space : String} {stored : Stored}
    (fresh : document.version = none)
    (found : memory.find? (document.keyIn space) = some stored) :
    Move uids memory (.create document space) (.error ⟨document.keyIn space, .alreadyExists⟩)
      memory
  /-- The new document is stored. -/
  | created {document : Resource kind} {space : String} (fresh : document.version = none)
    (nothing : memory.find? (document.keyIn space) = none) :
    Move uids memory (.create document space)
      (.ok (stamp document space (memory.lastVersion + 1) (uids (memory.lastVersion + 1))))
      (memory.write document space (uids (memory.lastVersion + 1))).2
  /-- Nothing is stored that could be replaced. -/
  | lost {document : Resource kind} {space : String}
    (nothing : memory.find? (document.keyIn space) = none) :
    Move uids memory (.update document space) (.error ⟨document.keyIn space, .notFound⟩) memory
  /-- The document does not carry the version that is stored. -/
  | stale {document : Resource kind} {space : String} {stored : Stored}
    (found : memory.find? (document.keyIn space) = some stored)
    (other : document.version ≠ some (toString stored.version)) :
    Move uids memory (.update document space) (.error ⟨document.keyIn space, .conflict⟩) memory
  /-- The document takes the place of the one that is stored. -/
  | updated {document : Resource kind} {space : String} {stored : Stored}
    (found : memory.find? (document.keyIn space) = some stored)
    (current : document.version = some (toString stored.version)) :
    Move uids memory (.update document space)
      (.ok (stamp document space (memory.lastVersion + 1) stored.uid))
      (memory.write document space stored.uid).2

/-- The store answers a call as one of the cases says. -/
theorem perform_move (uids : Nat → String) (memory : Memory) {kind : Kind} (call : Call kind) :
    Move uids memory call (perform uids call memory).1 (perform uids call memory).2 := by
  cases call with
  | get name space =>
    unfold perform
    simp only
    split
    · next nothing => exact .absent nothing
    · next stored found =>
      split
      · next document decoded => exact .fetched found decoded
      · next error failed => exact .garbled found failed
  | create document space =>
    unfold perform
    simp only
    split
    · next carried => exact .versioned carried
    · next none =>
      have fresh : document.version = .none := by simpa using none
      split
      · next stored found => exact .taken fresh found
      · next nothing => exact .created fresh nothing
  | update document space =>
    unfold perform
    simp only
    split
    · next nothing => exact .lost nothing
    · next stored found =>
      split
      · next current => exact .updated found current
      · next other => exact .stale found other

/-- The store answers a program as one of the cases says. -/
theorem repository_move (uids : Nat → String) (memory : Memory) {kind : Kind} (call : Call kind) :
    Move uids memory call ((repository uids).perform call memory).1
      ((repository uids).perform call memory).2 :=
  perform_move uids memory call

/-- A get leaves the store as it is. -/
theorem Move.of_get {name space : String} (move : Move uids memory (.get name space) answer after) :
    after = memory := by
  cases move <;> rfl

/-- A get that is answered with a document has found it. -/
theorem Move.get_ok {name space : String} {document : Resource kind}
    (move : Move uids memory (.get name space) answer after) (ok : answer = .ok document) :
    ∃ stored, memory.find? ⟨kind, name, space⟩ = some stored ∧
      (Resource.decoder kind).decodeValue stored.body = .ok document := by
  cases move with
  | fetched found decoded =>
    obtain rfl := Except.ok.inj ok
    exact ⟨_, found, decoded⟩
  | absent | garbled => contradiction

/-- An update changes nothing or takes the place of the entry whose version it carries. -/
theorem Move.of_update {document : Resource kind} {space : String}
    (move : Move uids memory (.update document space) answer after) :
    after = memory ∨ ∃ stored, memory.find? (document.keyIn space) = some stored ∧
      document.version = some (toString stored.version) ∧
        after = (memory.write document space stored.uid).2 := by
  cases move with
  | lost | stale => exact .inl rfl
  | updated found current => exact .inr ⟨_, found, current, rfl⟩

/-- An update of an entry with its version takes its place. -/
theorem Move.update_current {document : Resource kind} {space : String} {stored : Stored}
    (move : Move uids memory (.update document space) answer after)
    (found : memory.find? (document.keyIn space) = some stored)
    (current : document.version = some (toString stored.version)) :
    answer = .ok (stamp document space (memory.lastVersion + 1) stored.uid) ∧
      after = (memory.write document space stored.uid).2 := by
  cases move with
  | updated there _ =>
    obtain rfl := Option.some.inj (found.symm.trans there)
    exact ⟨rfl, rfl⟩
  | lost nothing =>
    rw [nothing] at found
    contradiction
  | stale there other =>
    obtain rfl := Option.some.inj (found.symm.trans there)
    exact absurd current other

/-- An update of an entry with another version is a conflict and changes nothing. -/
theorem Move.update_stale {document : Resource kind} {space : String} {stored : Stored}
    (move : Move uids memory (.update document space) answer after)
    (found : memory.find? (document.keyIn space) = some stored)
    (other : document.version ≠ some (toString stored.version)) :
    answer = .error ⟨document.keyIn space, .conflict⟩ ∧ after = memory := by
  cases move with
  | updated there current =>
    obtain rfl := Option.some.inj (found.symm.trans there)
    exact absurd current other
  | lost nothing =>
    rw [nothing] at found
    contradiction
  | stale => exact ⟨rfl, rfl⟩

/-- A create of a document without a version stores it if nothing is stored under its key, and
finds the key taken otherwise. -/
theorem Move.create_fresh {document : Resource kind} {space : String}
    (move : Move uids memory (.create document space) answer after)
    (fresh : document.version = none) :
    (memory.find? (document.keyIn space) = none ∧
        answer = .ok
          (stamp document space (memory.lastVersion + 1) (uids (memory.lastVersion + 1))) ∧
        after = (memory.write document space (uids (memory.lastVersion + 1))).2) ∨
      ((∃ stored, memory.find? (document.keyIn space) = some stored) ∧
        answer = .error ⟨document.keyIn space, .alreadyExists⟩ ∧ after = memory) := by
  cases move with
  | versioned carried =>
    rw [fresh] at carried
    contradiction
  | taken _ found => exact .inr ⟨⟨_, found⟩, rfl, rfl⟩
  | created _ nothing => exact .inl ⟨nothing, rfl, rfl⟩

/-- Writing changes what is stored under the key of the document only. -/
theorem find?_write (memory : Memory) (document : Resource kind) (space uid : String)
    (key : Key) :
    (memory.write document space uid).2.find? key =
      if key = document.keyIn space then
        some ⟨memory.lastVersion + 1, uid,
          (stamp document space (memory.lastVersion + 1) uid).toValue⟩
      else memory.find? key :=
  lookup_insert _ _ _ _

/-- Writing puts the stamped document under its key. -/
theorem find?_write_self (memory : Memory) (document : Resource kind) (space uid : String) :
    (memory.write document space uid).2.find? (document.keyIn space) =
      some ⟨memory.lastVersion + 1, uid,
        (stamp document space (memory.lastVersion + 1) uid).toValue⟩ := by
  rw [find?_write, if_pos rfl]

/-- A document that is framed is framed when it is stamped. -/
theorem stamp_framed {document : Resource kind} (framed : document.Framed) (space : String)
    (version : Nat) (uid : String) : (stamp document space version uid).Framed :=
  ⟨framed.metadata, framed.spec, framed.extra⟩

/-- A document that is stamped is as sound as before. -/
theorem stamp_sound {document : Resource kind} (sound : document.Sound vocabulary)
    (space : String) (version : Nat) (uid : String) :
    (stamp document space version uid).Sound vocabulary :=
  ⟨stamp_framed sound.framed space version uid, sound.within⟩

end Memory

/-- An entry is the value of a sound document of its key, which carries the version and the
identity of the entry. -/
structure Stored.Shows (stored : Stored) (vocabulary : Vocabulary) (key : Key)
    (document : Resource key.kind) : Prop where
  /-- The document is sound. -/
  sound : document.Sound vocabulary
  /-- The document has the name of the key. -/
  name : document.name = key.name
  /-- The document has the namespace of the key. -/
  space : document.metadata.space = key.space
  /-- The document carries the version of the entry. -/
  version : document.version = some (toString stored.version)
  /-- The document carries the identity of the entry. -/
  uid : document.metadata.uid = some stored.uid
  /-- The value of the document is what is stored. -/
  body : stored.body = document.toValue

namespace Memory

variable {uids : Nat → String} {memory after : Memory} {kind : Kind} {call : Call kind}
  {answer : Answer kind} {vocabulary : Vocabulary}

/-- What is written shows the stamped document. -/
theorem stamp_shows {document : Resource kind} (sound : document.Sound vocabulary)
    (space : String) (version : Nat) (uid : String) :
    Stored.Shows ⟨version, uid, (stamp document space version uid).toValue⟩ vocabulary
      (document.keyIn space) (stamp document space version uid) :=
  ⟨stamp_sound sound space version uid, rfl, rfl, rfl, rfl, rfl⟩

/-- Every entry shows a document, and the versions of the entries are different and at most the
last one. -/
structure Sound (vocabulary : Vocabulary) (memory : Memory) : Prop where
  /-- Every entry shows a document. -/
  shows : ∀ key stored, memory.find? key = some stored →
    ∃ document : Resource key.kind, stored.Shows vocabulary key document
  /-- No version is greater than the last one. -/
  bounded : ∀ key stored, memory.find? key = some stored → stored.version ≤ memory.lastVersion
  /-- Entries with the same version have the same key. -/
  distinct : ∀ key other stored held, memory.find? key = some stored →
    memory.find? other = some held → stored.version = held.version → key = other

/-- The store with nothing in it is sound. -/
theorem empty_sound (vocabulary : Vocabulary) : empty.Sound vocabulary := by
  constructor <;> intro key <;> simp [find?, empty]

/-- Writing a sound document leaves a sound store behind. -/
theorem Sound.write (sound : memory.Sound vocabulary) {document : Resource kind}
    (soundDocument : document.Sound vocabulary) (space uid : String) :
    (memory.write document space uid).2.Sound vocabulary := by
  constructor
  · intro key stored found
    rw [find?_write] at found
    split at found
    · next same =>
      subst same
      obtain rfl := Option.some.inj found
      exact ⟨_, stamp_shows soundDocument space _ uid⟩
    · exact sound.shows key stored found
  · intro key stored found
    rw [find?_write] at found
    split at found
    · obtain rfl := Option.some.inj found
      exact Nat.le_refl _
    · exact Nat.le_succ_of_le (sound.bounded key stored found)
  · intro key other stored held found there same
    rw [find?_write] at found there
    -- An entry from before has a version at most the last one, and the new entry a greater one.
    split at found <;> split at there
    · next first second => exact first.trans second.symm
    · obtain rfl := Option.some.inj found
      have := sound.bounded other held there
      simp only at same
      omega
    · obtain rfl := Option.some.inj there
      have := sound.bounded key stored found
      simp only at same
      omega
    · exact sound.distinct key other stored held found there same

/-- What a sound store holds under a key is read back as a document with the metadata and the
other members of the one that was stored. -/
theorem Sound.decoded (stable : vocabulary.Stable) (sound : memory.Sound vocabulary)
    {name space : String} {stored : Stored} {document : Resource kind}
    (found : memory.find? ⟨kind, name, space⟩ = some stored)
    (decoded : (Resource.decoder kind).decodeValue stored.body = .ok document) :
    document.Sound vocabulary ∧ document.name = name ∧ document.metadata.space = space ∧
      document.version = some (toString stored.version) ∧
      document.metadata.uid = some stored.uid := by
  obtain ⟨written, shown⟩ := sound.shows _ stored found
  have read := mapError_eq_ok_iff.1 decoded
  rw [shown.body] at read
  have same := Resource.Sound.of_ofValue_toValue stable shown.sound read
  refine ⟨same.1, ?_, ?_, ?_, ?_⟩
  · rw [Resource.name, same.2.1]
    exact shown.name
  · rw [same.2.1]
    exact shown.space
  · rw [Resource.version, same.2.1]
    exact shown.version
  · rw [same.2.1]
    exact shown.uid

/-- In a legible vocabulary a get finds nothing or the very document that an entry shows. -/
theorem Move.get_legible {name space : String}
    (move : Move uids memory (.get name space : Call kind) answer after)
    (legible : vocabulary.Legible kind) (sound : memory.Sound vocabulary) :
    (memory.find? ⟨kind, name, space⟩ = none ∧
        answer = .error ⟨⟨kind, name, space⟩, .notFound⟩) ∨
      ∃ stored document, memory.find? ⟨kind, name, space⟩ = some stored ∧
        stored.Shows vocabulary ⟨kind, name, space⟩ document ∧ answer = .ok document := by
  cases move with
  | absent nothing => exact .inl ⟨nothing, rfl⟩
  | garbled found failed =>
    obtain ⟨document, shown⟩ := sound.shows _ _ found
    have read := shown.sound.ofValue_toValue legible
    rw [Decoder.decodeValue, shown.body, read] at failed
    contradiction
  | fetched found decoded =>
    obtain ⟨document, shown⟩ := sound.shows _ _ found
    have read := shown.sound.ofValue_toValue legible
    rw [Decoder.decodeValue, shown.body, read] at decoded
    obtain rfl := Except.ok.inj decoded
    exact .inr ⟨_, document, found, shown, rfl⟩

/-- A call with a sound document is answered with a sound document, if with one, and leaves a
sound store behind. -/
theorem Move.sound (move : Move uids memory call answer after) (stable : vocabulary.Stable)
    (sound : memory.Sound vocabulary) (soundCall : call.Sound vocabulary) :
    Answer.Sound vocabulary answer ∧ after.Sound vocabulary := by
  cases move with
  | fetched found decoded =>
    refine ⟨fun document same => ?_, sound⟩
    obtain rfl := Except.ok.inj same
    exact (sound.decoded stable found decoded).1
  | created fresh nothing =>
    refine ⟨fun document same => ?_, sound.write soundCall _ _⟩
    obtain rfl := Except.ok.inj same
    exact stamp_sound soundCall _ _ _
  | updated found current =>
    refine ⟨fun document same => ?_, sound.write soundCall _ _⟩
    obtain rfl := Except.ok.inj same
    exact stamp_sound soundCall _ _ _
  | absent | garbled | versioned | taken | lost | stale =>
    refine ⟨fun document same => ?_, sound⟩
    contradiction

/-- The call is an update of a key that succeeded. -/
def Updates (key : Key) {kind : Kind} (call : Call kind) (answer : Answer kind) : Prop :=
  call.isUpdate ∧ call.key = key ∧ ∃ document, answer = .ok document

/-- What is stored under a key stays as it is unless the key is updated, and then it gets a
greater version. -/
theorem Move.keeps (move : Move uids memory call answer after) (sound : memory.Sound vocabulary)
    {key : Key} {stored : Stored} (found : memory.find? key = some stored) :
    (¬ Updates key call answer ∧ after.find? key = some stored) ∨
      (Updates key call answer ∧
        ∃ later, after.find? key = some later ∧ stored.version < later.version) := by
  cases move with
  | absent | garbled | versioned | taken | lost | stale =>
    refine .inl ⟨?_, found⟩
    rintro ⟨-, -, document, same⟩
    contradiction
  | fetched =>
    refine .inl ⟨?_, found⟩
    rintro ⟨isUpdate, -⟩
    contradiction
  | created fresh nothing =>
    refine .inl ⟨?_, ?_⟩
    · rintro ⟨isUpdate, -⟩
      contradiction
    · rw [find?_write, if_neg, found]
      rintro rfl
      rw [nothing] at found
      contradiction
  | @updated document space held there current =>
    by_cases same : key = document.keyIn space
    · have later := find?_write memory document space held.uid key
      rw [if_pos same] at later
      have less := Nat.lt_succ_of_le (sound.bounded key stored found)
      exact .inr ⟨⟨rfl, same.symm, _, rfl⟩, _, later, less⟩
    · refine .inl ⟨?_, ?_⟩
      · rintro ⟨-, other, -⟩
        exact same other.symm
      · rw [find?_write, if_neg same, found]

/-- The call is a create of a key. -/
def Creates (key : Key) {kind : Kind} (call : Call kind) : Prop := call.isCreate ∧ call.key = key

/-- A call that does not create a key under which nothing is stored leaves nothing there. -/
theorem Move.keeps_none (move : Move uids memory call answer after) {key : Key}
    (nothing : memory.find? key = none) (other : ¬ Creates key call) : after.find? key = none := by
  cases move with
  | absent | garbled | fetched | versioned | taken | lost | stale => exact nothing
  | created fresh free =>
    rw [find?_write, if_neg, nothing]
    rintro rfl
    exact other ⟨rfl, rfl⟩
  | updated found current =>
    rw [find?_write, if_neg, nothing]
    rintro rfl
    rw [nothing] at found
    contradiction

end Memory

end HealthLedger.Store
