import HealthLedger.Document.Decoder

/-!
# Document metadata

The metadata of a document hold its name and namespace and what the store has assigned to it: a
version, which changes with every write, and an identity, which does not. All other members
are kept as they are.
-/

namespace HealthLedger.Document

open Json (Value Members Object)

/-- The metadata of a document. -/
structure Metadata where
  /-- The name of the document in its namespace. -/
  name : String
  /-- The namespace, empty if the writer did not say. -/
  space : String
  /-- The version assigned by the store at the last write. -/
  version : Option String
  /-- The identity assigned by the store when the document was created. -/
  uid : Option String
  /-- All other members. -/
  extra : Object

namespace Metadata

/-- The metadata of a document the store has not seen. -/
def new (name space : String) : Metadata := ⟨name, space, none, none, .empty⟩

/-- The keys of the fields. -/
def keys : List String := ["name", "namespace", "resourceVersion", "uid"]

/-- The members in the order they are written, fields first. The version and the identity are
left out if there is none. -/
def members (metadata : Metadata) : Members :=
  [("name", .string metadata.name), ("namespace", .string metadata.space)] ++
    (metadata.version.map fun version => ("resourceVersion", Value.string version)).toList ++
    (metadata.uid.map fun uid => ("uid", Value.string uid)).toList ++
    metadata.extra.members

/-- Read metadata from the members of an object. Of several wrong fields the first one in key
order is reported, and a missing name only if no field is wrong. -/
def ofMembers (members : Members) : Except Mismatch Metadata := do
  let name ← Decoder.string.member "name" members
  let space ← Decoder.string.member "namespace" members
  let version ← Decoder.string.optional.member "resourceVersion" members
  let uid ← Decoder.string.optional.member "uid" members
  match name with
  | none => .error (.missingField "name")
  | some name =>
    .ok {
      name
      space := space.getD ""
      version := version.join
      uid := uid.join
      extra := .ofMembers (members.filter (·.1 ∉ keys)) }

/-- Metadata while they are read. -/
structure Draft where
  /-- The name, if it was read. -/
  name : Option String := none
  /-- The namespace, if it was read. -/
  space : Option String := none
  /-- The version, if it was read. -/
  version : Option (Option String) := none
  /-- The identity, if it was read. -/
  uid : Option (Option String) := none
  /-- The other members, in the order they were read. -/
  extra : Members := []

/-- The metadata of a complete draft. -/
def Draft.finish (draft : Draft) : Except Mismatch Metadata :=
  match draft.name with
  | none => .error (.missingField "name")
  | some name =>
    .ok ⟨name, draft.space.getD "", draft.version.join, draft.uid.join, .ofMembers draft.extra⟩

/-- The fields of metadata; other members are kept. -/
def shape : Shape Draft where
  fields :=
    [.of "name" .string (·.name) fun draft name => { draft with name := some name },
     .of "namespace" .string (·.space) fun draft space => { draft with space := some space },
     .of "resourceVersion" Decoder.string.optional (·.version)
       fun draft version => { draft with version := some version },
     .of "uid" Decoder.string.optional (·.uid) fun draft uid => { draft with uid := some uid }]
  keep := some fun draft name value => { draft with extra := draft.extra ++ [(name, value)] }

/-- How metadata are named in messages. -/
def title : String := "struct ObjectMeta"

/-- The decoder of metadata. -/
def decoder : Decoder Metadata where
  ofValue
    | .object members => ofMembers members
    | value => wrongValue value title
  ofTree := shape.ofTree title {} Draft.finish

end Metadata

end HealthLedger.Document
