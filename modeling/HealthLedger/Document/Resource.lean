import HealthLedger.Document.Details
import HealthLedger.Document.JobSpec
import HealthLedger.Document.Key
import HealthLedger.Document.Metadata
import HealthLedger.Json.Printer

/-!
# Documents

A document of either kind has metadata, a specification and members that are kept as they are.
The kind decides what the specification is: the details of a check, or a job specification. A
document has two forms in JSON: its value, in which all members are in key order, and its
written form, in which fields come first and in their own order.
-/

namespace HealthLedger.Document

open Json (Value Members Object)

/-- The specification of a document of a kind. -/
abbrev Kind.Spec : Kind → Type
  | .checkState => Details
  | .checkJob => JobSpec

/-- The members of a specification in the order they are written. -/
def Kind.specMembers : (kind : Kind) → kind.Spec → Members
  | .checkState => Details.members
  | .checkJob => JobSpec.members

/-- The decoder of a specification. -/
def Kind.specDecoder : (kind : Kind) → Decoder kind.Spec
  | .checkState => Details.decoder
  | .checkJob => JobSpec.decoder

/-- A document of a kind. -/
structure Resource (kind : Kind) where
  /-- The metadata. -/
  metadata : Metadata
  /-- The specification. -/
  spec : kind.Spec
  /-- All other members. -/
  extra : Object

/-- The state of a check. -/
abbrev CheckState := Resource .checkState

/-- A check job. -/
abbrev CheckJob := Resource .checkJob

namespace Resource

variable {kind : Kind}

/-- A document the store has not seen. -/
def new (name space : String) (spec : kind.Spec) : Resource kind :=
  ⟨.new name space, spec, .empty⟩

/-- The name of a document. -/
def name (document : Resource kind) : String := document.metadata.name

/-- The version a document carries. -/
def version (document : Resource kind) : Option String := document.metadata.version

/-- The key of a document in a namespace, whatever namespace its metadata name. -/
def keyIn (document : Resource kind) (space : String) : Key := ⟨kind, document.name, space⟩

/-- The keys of the fields. -/
def keys : List String := ["metadata", "spec"]

/-- The members in the order they are written; `object` makes an object of members. -/
def members (object : Members → Value) (document : Resource kind) : Members :=
  [("metadata", object document.metadata.members),
   ("spec", object (kind.specMembers document.spec))] ++ document.extra.members

/-- The value of a document. -/
def toValue (document : Resource kind) : Value := .ofMembers (document.members .ofMembers)

/-- The written form of a document. -/
def text (document : Resource kind) : String := (Value.object (document.members .object)).text

/-- Read a document from the members of an object. -/
def ofMembers (kind : Kind) (members : Members) : Except Mismatch (Resource kind) := do
  let metadata ← Metadata.decoder.member "metadata" members
  let spec ← kind.specDecoder.member "spec" members
  match metadata, spec with
  | none, _ => .error (.missingField "metadata")
  | some _, none => .error (.missingField "spec")
  | some metadata, some spec =>
    .ok ⟨metadata, spec, .ofMembers (members.filter (·.1 ∉ keys))⟩

/-- A document while it is read. -/
structure Draft (kind : Kind) where
  /-- The metadata, if they were read. -/
  metadata : Option Metadata := none
  /-- The specification, if it was read. -/
  spec : Option kind.Spec := none
  /-- The other members, in the order they were read. -/
  extra : Members := []

/-- The document of a complete draft. -/
def Draft.finish (draft : Draft kind) : Except Mismatch (Resource kind) :=
  match draft.metadata, draft.spec with
  | none, _ => .error (.missingField "metadata")
  | some _, none => .error (.missingField "spec")
  | some metadata, some spec => .ok ⟨metadata, spec, .ofMembers draft.extra⟩

/-- The fields of a document; other members are kept. -/
def shape (kind : Kind) : Shape (Draft kind) where
  fields :=
    [.of "metadata" Metadata.decoder (·.metadata)
       fun draft metadata => { draft with metadata := some metadata },
     .of "spec" kind.specDecoder (·.spec) fun draft spec => { draft with spec := some spec }]
  keep := some fun draft name value => { draft with extra := draft.extra ++ [(name, value)] }

/-- The decoder of a document. -/
def decoder (kind : Kind) : Decoder (Resource kind) where
  ofValue
    | .object members => ofMembers kind members
    | value => wrongValue value ("struct " ++ kind.name)
  ofTree := (shape kind).ofTree ("struct " ++ kind.name) {} Draft.finish

end Resource

end HealthLedger.Document
