import HealthLedger.Store.Program

/-!
# A store in memory

The store keeps the JSON value of every document together with its version and identity. One
counter gives the versions of all keys, and the version of a document is written in decimal. A
document is created only without a version and under a key that has none, and updated only with
the current version. A call that fails changes nothing.
-/

namespace HealthLedger.Store

open Document (Kind Resource Key DecodeError)

/-- What is stored under a key. -/
structure Stored where
  /-- The version of the last write, a natural number as `Memory.lastVersion` is. -/
  version : Nat
  /-- The identity given when the key was created. -/
  uid : String
  /-- The value of the document. -/
  body : Json.Value

/-- The state of a store in memory. -/
structure Memory where
  /-- What is stored, each key once. -/
  objects : List (Key × Stored) := []
  /-- The version of the last write under any key. It counts without a bound, and so it is what a
  counter of 64 bits is for fewer than 2^64 writes; behind these such a counter would stop or start
  again at zero, and this one does not. -/
  lastVersion : Nat := 0

namespace Memory

/-- The store with nothing in it. -/
def empty : Memory := {}

/-- The number of documents. -/
def size (memory : Memory) : Nat := memory.objects.length

/-- What is stored under a key. -/
def find? (memory : Memory) (key : Key) : Option Stored := memory.objects.lookup key

/-- Put something under a key, in place of what was there. -/
def insert (key : Key) (stored : Stored) : List (Key × Stored) → List (Key × Stored)
  | [] => [(key, stored)]
  | (other, held) :: rest =>
    if other = key then (key, stored) :: rest else (other, held) :: insert key stored rest

/-- Inserting changes what is stored under one key. -/
theorem lookup_insert (key other : Key) (stored : Stored) (objects : List (Key × Stored)) :
    (insert key stored objects).lookup other =
      if other = key then some stored else objects.lookup other := by
  induction objects with
  | nil =>
    by_cases same : other = key
    · simp [insert, same]
    · simp [insert, List.lookup_cons, same, beq_eq_false_iff_ne.2 same]
  | cons first rest ih =>
    obtain ⟨head, held⟩ := first
    by_cases found : head = key
    · subst found
      by_cases same : other = head
      · simp [insert, same]
      · simp [insert, List.lookup_cons, same, beq_eq_false_iff_ne.2 same]
    · by_cases same : other = head
      · subst same
        simp [insert, found]
      · simp [insert, found, List.lookup_cons, beq_eq_false_iff_ne.2 same, ih]

/-- A document as it is stored: with its namespace, its version and its identity. -/
def stamp {kind : Kind} (document : Resource kind) (space : String) (version : Nat)
    (uid : String) : Resource kind :=
  { document with
    metadata :=
      { document.metadata with space, version := some (toString version), uid := some uid } }

/-- Store a document with the next version. -/
def write {kind : Kind} (memory : Memory) (document : Resource kind) (space uid : String) :
    Resource kind × Memory :=
  let version := memory.lastVersion + 1
  let stored := stamp document space version uid
  (stored,
    { objects := insert (document.keyIn space) ⟨version, uid, stored.toValue⟩ memory.objects
      lastVersion := version })

/-- The message about a new document that carries a version. -/
def versionedCreate : String := "resourceVersion should not be set on objects to be created"

/-- The answer to a call and the state behind it. `uids` gives the identity of a document from the
version it is created with. -/
def perform (uids : Nat → String) {kind : Kind} (call : Call kind) (memory : Memory) :
    Answer kind × Memory :=
  let failure (reason : Reason) : Answer kind × Memory := (.error ⟨call.key, reason⟩, memory)
  match call with
  | .get name space =>
    match memory.find? ⟨kind, name, space⟩ with
    | none => failure .notFound
    | some stored =>
      match (Resource.decoder kind).decodeValue stored.body with
      | .ok document => (.ok document, memory)
      | .error error => failure (.codec error.message)
  | .create document space =>
    if document.version.isSome then failure (.api 400 versionedCreate)
    else
      match memory.find? (document.keyIn space) with
      | some _ => failure .alreadyExists
      | none =>
        let (written, memory) := memory.write document space (uids (memory.lastVersion + 1))
        (.ok written, memory)
  | .update document space =>
    match memory.find? (document.keyIn space) with
    | none => failure .notFound
    | some stored =>
      if document.version = some (toString stored.version) then
        let (written, memory) := memory.write document space stored.uid
        (.ok written, memory)
      else failure .conflict

/-- The store in memory as a repository. -/
def repository (uids : Nat → String) : Repository Memory := ⟨perform uids⟩

end Memory

end HealthLedger.Store
