import HealthLedger.Proofs.Document.Complete
import HealthLedger.Proofs.Json.Printing

/-!
# Documents as texts

The fields of a document can always be sent, and so a document can be sent as a text if the
members that it keeps can. Whoever parses the text gets the value of the document
(`Resource.Sendable.parse`), and whoever decodes it gets what he would get from this value
(`Resource.Sendable.decodeText`).
-/

namespace HealthLedger.Document

open Json (Value Members Object)

/-- The room that is left for members within the members of a document. -/
def innerRoom : Nat := Json.nestingLimit - 2

/-- The kept members of a specification, if it has any, can be sent. -/
def Kind.SpecSendable : (kind : Kind) → kind.Spec → Prop
  | .checkState, _ => True
  | .checkJob, spec => ∀ member ∈ (JobSpec.extra spec).members, member.2.Sendable innerRoom

/-- The members that a document keeps can be sent. -/
structure Resource.Sendable {kind : Kind} (document : Resource kind) : Prop where
  /-- The kept members of the metadata can be sent. -/
  metadata : ∀ member ∈ document.metadata.extra.members, member.2.Sendable innerRoom
  /-- The kept members of the specification can be sent. -/
  spec : kind.SpecSendable document.spec
  /-- The other members can be sent. -/
  extra : ∀ member ∈ document.extra.members, member.2.Sendable (Json.nestingLimit - 1)

/-- The numbers in the kept members of a specification, if it has any, are read as they are
printed. -/
def Kind.SpecReadable : (kind : Kind) → kind.Spec → Prop
  | .checkState, _ => True
  | .checkJob, spec => ∀ member ∈ (JobSpec.extra spec).members, member.2.Readable

/-- The numbers in the members that a document keeps are read as they are printed. -/
structure Resource.Readable {kind : Kind} (document : Resource kind) : Prop where
  /-- The numbers in the metadata are read as they are printed. -/
  metadata : ∀ member ∈ document.metadata.extra.members, member.2.Readable
  /-- The numbers in the specification are read as they are printed. -/
  spec : kind.SpecReadable document.spec
  /-- The numbers in the other members are read as they are printed. -/
  extra : ∀ member ∈ document.extra.members, member.2.Readable

/-- A member that was read can be sent if its numbers can. -/
theorem Kept.sendable {keys : List String} {room : Nat} {member : String × Value}
    (kept : Kept keys room member) (readable : member.2.Readable) : member.2.Sendable room := by
  obtain ⟨tree, read⟩ := kept.read
  exact tree.sendable_of_read read readable

/-- A document that was read from a text can be sent again if its numbers can. -/
theorem Resource.sendable_of_decodeText {kind : Kind} {document : Resource kind}
    {bytes : List UInt8} (read : (decoder kind).decodeText bytes = .ok document)
    (readable : document.Readable) : document.Sendable := by
  have keeps := keeps_of_decodeText read
  refine ⟨fun member found => (keeps.metadata member found).sendable (readable.metadata _ found),
    ?_, fun member found => (keeps.extra member found).sendable (readable.extra _ found)⟩
  cases kind with
  | checkState => trivial
  | checkJob => exact fun member found =>
      (keeps.spec member found).sendable (readable.spec member found)

/-- The fields of metadata hold strings. -/
theorem Metadata.fields_string (metadata : Metadata) :
    ∀ field ∈ metadata.fields, ∃ text, field.2 = .string text := by
  intro field found
  simp only [fields, List.mem_append, List.mem_cons, List.not_mem_nil, or_false,
    Option.mem_toList, Option.map_eq_some_iff] at found
  rcases found with ((rfl | rfl) | ⟨version, -, rfl⟩) | ⟨uid, -, rfl⟩
  · exact ⟨_, rfl⟩
  · exact ⟨_, rfl⟩
  · exact ⟨version, rfl⟩
  · exact ⟨uid, rfl⟩

/-- Metadata can be sent within a document if their kept members can. -/
theorem Metadata.sendable_members {metadata : Metadata}
    (sendable : ∀ member ∈ metadata.extra.members, member.2.Sendable innerRoom) :
    (Value.ofMembers metadata.members).Sendable (Json.nestingLimit - 1) := by
  refine Json.sendable_ofMembers (by decide) fun member found => ?_
  have parts : metadata.members = metadata.fields ++ metadata.extra.members := rfl
  rw [parts] at found
  rcases List.mem_append.1 found with field | kept
  · obtain ⟨text, same⟩ := metadata.fields_string member field
    rw [same]
    trivial
  · exact sendable member kept

/-- A list of strings can be sent where there is room for it. -/
theorem sendable_strings {room : Nat} (fits : 1 < room) (texts : List String) :
    (Value.array (texts.map .string)).Sendable room := by
  refine ⟨fits, ?_⟩
  induction texts with
  | nil => trivial
  | cons text rest ih => exact ⟨trivial, ih⟩

/-- Details can always be sent within a document. -/
theorem Details.sendable_members (details : Details) :
    (Value.ofMembers details.members).Sendable (Json.nestingLimit - 1) := by
  refine Json.sendable_ofMembers (by decide) fun member found => ?_
  have errors : (Value.array (details.errors.map .string)).Sendable (Json.nestingLimit - 1 - 1) :=
    sendable_strings (by decide) details.errors
  simp only [members, List.mem_cons, List.not_mem_nil, or_false] at found
  rcases found with rfl | rfl | rfl | rfl | rfl | rfl | rfl | rfl
  · trivial
  · exact errors
  · trivial
  · trivial
  · cases details.lastRun <;> trivial
  · trivial
  · trivial
  · trivial

/-- The value of a document can be sent if the members that it keeps can. -/
theorem Resource.Sendable.toValue {kind : Kind} {document : Resource kind}
    (sendable : document.Sendable) : document.toValue.Sendable Json.nestingLimit := by
  refine Json.sendable_ofMembers (by decide) fun member found => ?_
  have parts : document.members .ofMembers = document.fields ++ document.extra.members := rfl
  rw [parts] at found
  rcases List.mem_append.1 found with field | kept
  · simp only [fields, List.mem_cons, List.not_mem_nil, or_false] at field
    rcases field with rfl | rfl
    · exact Metadata.sendable_members sendable.metadata
    · cases kind with
      | checkState => exact Details.sendable_members document.spec
      | checkJob =>
        refine Json.sendable_ofMembers (by decide) fun member found => ?_
        rcases List.mem_cons.1 found with rfl | kept
        · trivial
        · exact sendable.spec member kept
  · exact sendable.extra member kept

namespace Resource

variable {kind : Kind} {document : Resource kind}

/-- Whoever parses the text of a document gets its value. -/
theorem Sendable.parse (sendable : document.Sendable) :
    Json.parse (Text.Utf8.encode document.toValue.text) = .ok document.toValue :=
  Json.parse_text sendable.toValue

/-- Whoever decodes the text of a document gets what he would get from its value. -/
theorem Sendable.decodeText (sendable : document.Sendable) {read : Resource kind}
    (decoded : (decoder kind).ofValue document.toValue = .ok read) :
    (decoder kind).decodeText (Text.Utf8.encode document.toValue.text) = .ok read := by
  obtain ⟨tree, scanned, said⟩ := Json.scan_text sendable.toValue
  have distinct : (Json.scan (Text.Utf8.encode document.toValue.text)).tree.Distinct := by
    rw [scanned]
    exact said.distinct sendable.toValue
  exact (Decoder.decodeText_eq_ok_iff_decodeValue (faithful kind) (complete kind) sendable.parse
    distinct).2 (mapError_eq_ok_iff.2 decoded)

end Resource

end HealthLedger.Document
