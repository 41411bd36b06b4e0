import HealthLedger.Document.Resource
import HealthLedger.Proofs.Json.Members
import HealthLedger.Proofs.Results

/-!
# Reading back the value of a document

A document is written as its fields and its kept members. Reading the value takes the fields
out again, and what is left are the kept members, provided that none of them has the key of a
field: the document is framed. Two parts of a specification go through a text of their own and
come back as what their text means: the phase of a job, and the time of the last run.
`Resource.ofValue_toValue` says this of a whole document, and `Resource.ofValue_toValue_eq` is
the case in which the document comes back as it was.
-/

namespace HealthLedger.Json.Object

/-- What the sorted members of some fields and an object hold, if the object avoids the keys
of the fields. -/
theorem findMember_sortMembers_fields {fields : Members} {extra : Object} {keys : List String}
    (nodup : (fields.map (·.1)).Nodup) (named : ∀ field ∈ fields, field.1 ∈ keys)
    (avoids : extra.Avoids keys) (key : String) :
    findMember key (sortMembers (fields ++ extra.members)) =
      (findMember key fields).or (extra.find? key) := by
  have apart : ((fields ++ extra.members).map (·.1)).Nodup := by
    rw [List.map_append]
    refine List.nodup_append.2 ⟨nodup, extra.increasing.nodup, ?_⟩
    rintro first inFields second inExtra rfl
    obtain ⟨field, inside, same⟩ := List.mem_map.1 inFields
    obtain ⟨member, kept, alike⟩ := List.mem_map.1 inExtra
    exact avoids member kept (alike ▸ same ▸ named field inside)
  rw [findMember_sortMembers_of_nodup apart, findMember_append, find?]

/-- The members that are left when the fields are taken out form the object again. -/
theorem ofMembers_filter_fields {fields : Members} {extra : Object} {keys : List String}
    (nodup : (fields.map (·.1)).Nodup) (named : ∀ field ∈ fields, field.1 ∈ keys)
    (avoids : extra.Avoids keys) :
    ofMembers ((sortMembers (fields ++ extra.members)).filter (·.1 ∉ keys)) = extra := by
  refine ext_find? fun key => ?_
  have increasing := (increasing_sortMembers (fields ++ extra.members)).filter
    fun member => decide (member.1 ∉ keys)
  rw [find?_ofMembers, sortMembers_of_increasing increasing,
    findMember_filter key fun key => decide (key ∉ keys),
    findMember_sortMembers_fields nodup named avoids]
  by_cases field : key ∈ keys
  · simp [field, avoids.find?_eq_none field]
  · have absent : findMember key fields = none :=
      findMember_eq_none fun member found same => field (same ▸ named member found)
    simp [field, absent]

end HealthLedger.Json.Object

namespace HealthLedger.Document

open Json (Value Members Object)

namespace Decoder

/-- A string is read back. -/
@[simp] theorem ofValue_string (text : String) : string.ofValue (.string text) = .ok text := rfl

/-- A truth value is read back. -/
@[simp] theorem ofValue_bool (value : Bool) : bool.ofValue (.bool value) = .ok value := rfl

/-- An instant is what its text means. -/
@[simp] theorem ofValue_instant (text : String) :
    instant.ofValue (.string text) = (Time.Instant.parse text).mapError .instant := rfl

/-- Null is nothing to an optional decoder. -/
@[simp] theorem ofValue_optional_null {α : Type} (decoder : Decoder α) :
    decoder.optional.ofValue .null = .ok none := rfl

/-- A string is something to an optional decoder. -/
@[simp] theorem ofValue_optional_string {α : Type} (decoder : Decoder α) (text : String) :
    decoder.optional.ofValue (.string text) = some <$> decoder.ofValue (.string text) := rfl

/-- The strings of a list are read back. -/
@[simp] theorem ofValue_strings (texts : List String) :
    string.list.ofValue (.array (texts.map .string)) = .ok texts := by
  change (texts.map Value.string).mapM string.ofValue = .ok texts
  induction texts with
  | nil => rfl
  | cons text rest ih =>
    rw [List.map_cons, List.mapM_cons, ih]
    rfl

end Decoder

/-- A workload is read back. -/
@[simp] theorem Workload.ofValue_toValue (workload : Workload) :
    decoder.ofValue workload.toValue = .ok workload := by
  cases workload <;> rfl

namespace Metadata

/-- No kept member has the key of a field. -/
def Framed (metadata : Metadata) : Prop := metadata.extra.Avoids keys

/-- The members of the fields. -/
def fields (metadata : Metadata) : Members :=
  [("name", .string metadata.name), ("namespace", .string metadata.space)] ++
    (metadata.version.map fun version => ("resourceVersion", Value.string version)).toList ++
    (metadata.uid.map fun uid => ("uid", Value.string uid)).toList

/-- No two fields have the same key. -/
theorem nodup_fields (metadata : Metadata) : (metadata.fields.map (·.1)).Nodup := by
  cases version : metadata.version <;> cases uid : metadata.uid <;>
    simp [fields, version, uid]

/-- The fields have their keys. -/
theorem fields_named (metadata : Metadata) : ∀ field ∈ metadata.fields, field.1 ∈ keys := by
  cases version : metadata.version <;> cases uid : metadata.uid <;>
    simp [fields, version, uid, keys]

/-- Metadata that are framed hold their fields and the kept members. -/
theorem find?_members {metadata : Metadata} (framed : metadata.Framed) (key : String) :
    (Object.ofMembers metadata.members).find? key =
      (Json.findMember key metadata.fields).or (metadata.extra.find? key) :=
  Object.findMember_sortMembers_fields metadata.nodup_fields metadata.fields_named framed key

/-- Metadata that are framed are read back as they were. -/
theorem ofValue_members {metadata : Metadata} (framed : metadata.Framed) :
    decoder.ofValue (.ofMembers metadata.members) = .ok metadata := by
  have kept := Object.ofMembers_filter_fields metadata.nodup_fields metadata.fields_named framed
  have held := find?_members framed
  have nothing : ∀ key ∈ keys, metadata.extra.find? key = none :=
    fun key field => framed.find?_eq_none field
  change ofMembers (Json.sortMembers (metadata.fields ++ metadata.extra.members)) = _
  change ∀ key, Json.findMember key (Json.sortMembers (metadata.fields ++ metadata.extra.members))
    = _ at held
  simp only [ofMembers, Decoder.member, held, kept]
  obtain ⟨name, space, version, uid, extra⟩ := metadata
  have noVersion := nothing "resourceVersion" (by simp [keys])
  have noUid := nothing "uid" (by simp [keys])
  cases version <;> cases uid <;>
    simp [fields, Json.findMember, noVersion, noUid, bind, Except.bind, Functor.map, Except.map]

end Metadata

namespace Details

/-- Details as they are read back: with the instant that the text of the last run means. -/
def reread (details : Details) : Except Mismatch Details :=
  match details.lastRun with
  | none => .ok details
  | some instant => do
    let meant ← (Time.Instant.parse instant.text).mapError .instant
    .ok { details with lastRun := some meant }

/-- Details that come back have the last run that its text means. -/
theorem reread_eq_ok {details read : Details} (result : details.reread = .ok read) :
    (details.lastRun = none ∧ read = details) ∨
      ∃ instant meant, details.lastRun = some instant ∧
        Time.Instant.parse instant.text = .ok meant ∧
        read = { details with lastRun := some meant } := by
  unfold reread at result
  split at result
  · next written => exact .inl ⟨written, (Except.ok.inj result).symm⟩
  · next instant written =>
    obtain ⟨meant, parsed, same⟩ := bind_eq_ok_iff.1 result
    exact .inr ⟨instant, meant, written, mapError_eq_ok_iff.1 parsed, (Except.ok.inj same).symm⟩

/-- Details are read back but for the last run, which goes through its text. -/
theorem ofValue_members (details : Details) :
    decoder.ofValue (.ofMembers details.members) = details.reread := by
  have nodup : (details.members.map (·.1)).Nodup := by simp [members]
  have held := Json.findMember_sortMembers_of_nodup nodup
  change ofMembers (Json.sortMembers details.members) = _
  simp only [ofMembers, Decoder.member, held]
  cases lastRun : details.lastRun with
  | none =>
    simp [members, Json.findMember, lastRun, reread, Draft.finish, bind, Except.bind,
      Functor.map, Except.map]
    rw [← lastRun]
  | some instant =>
    cases meant : Time.Instant.parse instant.text <;>
      simp [members, Json.findMember, lastRun, meant, reread, Draft.finish, bind, Except.bind,
        Functor.map, Except.map]

end Details

namespace JobSpec

/-- No kept member has the key of the phase. -/
def Framed (spec : JobSpec) : Prop := spec.extra.Avoids keys

/-- A specification as it is read back: with the phase that its token means. -/
def reread (spec : JobSpec) : JobSpec := { spec with phase := .ofToken spec.phase.token }

/-- A specification that is framed is read back but for the phase, which goes through its
token. -/
theorem ofValue_members {spec : JobSpec} (framed : spec.Framed) :
    decoder.ofValue (.ofMembers spec.members) = .ok spec.reread := by
  have nodup : (([("phase", spec.phase.toValue)] : Members).map (·.1)).Nodup := by simp
  have named : ∀ field ∈ ([("phase", spec.phase.toValue)] : Members), field.1 ∈ keys := by
    simp [keys]
  have kept := Object.ofMembers_filter_fields nodup named framed
  have held := Object.findMember_sortMembers_fields nodup named framed
  change ofMembers (Json.sortMembers ([("phase", spec.phase.toValue)] ++ spec.extra.members)) = _
  simp only [ofMembers, Decoder.member, held, kept]
  rfl

end JobSpec

namespace Kind

/-- The kept members of a specification, if it has any, avoid its fields. -/
def SpecFramed : (kind : Kind) → kind.Spec → Prop
  | .checkState, _ => True
  | .checkJob, spec => JobSpec.Framed spec

/-- A specification as it is read back. -/
def reread : (kind : Kind) → kind.Spec → Except Mismatch kind.Spec
  | .checkState, spec => Details.reread spec
  | .checkJob, spec => .ok (JobSpec.reread spec)

/-- Reading back leaves the kept members of a specification as they are. -/
theorem specFramed_reread {kind : Kind} {spec read : kind.Spec} (framed : kind.SpecFramed spec)
    (result : kind.reread spec = .ok read) : kind.SpecFramed read := by
  cases kind with
  | checkState => trivial
  | checkJob =>
    obtain rfl := Except.ok.inj result
    exact framed

/-- A specification that is framed is read back as what its texts mean. -/
theorem ofValue_specMembers {kind : Kind} {spec : kind.Spec} (framed : kind.SpecFramed spec) :
    kind.specDecoder.ofValue (.ofMembers (kind.specMembers spec)) = kind.reread spec := by
  cases kind with
  | checkState => exact Details.ofValue_members spec
  | checkJob => exact JobSpec.ofValue_members framed

end Kind

namespace Resource

variable {kind : Kind}

/-- No kept member of a document, of its metadata or of its specification has the key of a
field. -/
structure Framed (document : Resource kind) : Prop where
  /-- The metadata are framed. -/
  metadata : document.metadata.Framed
  /-- The specification is framed. -/
  spec : kind.SpecFramed document.spec
  /-- The other members are neither metadata nor specification. -/
  extra : document.extra.Avoids keys

/-- The members of the fields, as they are in the value. -/
def fields (document : Resource kind) : Members :=
  [("metadata", .ofMembers document.metadata.members),
   ("spec", .ofMembers (kind.specMembers document.spec))]

/-- No two fields have the same key. -/
theorem nodup_fields (document : Resource kind) : (document.fields.map (·.1)).Nodup := by
  simp [fields]

/-- The fields have their keys. -/
theorem fields_named (document : Resource kind) :
    ∀ field ∈ document.fields, field.1 ∈ keys := by
  simp [fields, keys]

/-- A document that is framed holds its fields and the kept members. -/
theorem find?_members {document : Resource kind} (framed : document.Framed) (key : String) :
    (Object.ofMembers (document.members .ofMembers)).find? key =
      (Json.findMember key document.fields).or (document.extra.find? key) :=
  Object.findMember_sortMembers_fields document.nodup_fields document.fields_named framed.extra key

/-- A document that is framed is read back with its specification as it is read back. -/
theorem ofValue_toValue {document : Resource kind} (framed : document.Framed) :
    (decoder kind).ofValue document.toValue =
      (kind.reread document.spec).map fun spec => { document with spec } := by
  have kept := Object.ofMembers_filter_fields document.nodup_fields document.fields_named
    framed.extra
  have held := find?_members framed
  have metadata := Metadata.ofValue_members framed.metadata
  have spec := Kind.ofValue_specMembers framed.spec
  change ofMembers kind (Json.sortMembers (document.fields ++ document.extra.members)) = _
  change ∀ key, Json.findMember key (Json.sortMembers (document.fields ++ document.extra.members))
    = _ at held
  simp only [ofMembers, Decoder.member, held, kept]
  cases reread : kind.reread document.spec <;>
    simp [fields, Json.findMember, metadata, spec, reread, bind, Except.bind, Functor.map,
      Except.map]

/-- A document comes back as it was if it is framed and its specification does. -/
theorem ofValue_toValue_eq {document : Resource kind} (framed : document.Framed)
    (same : kind.reread document.spec = .ok document.spec) :
    (decoder kind).ofValue document.toValue = .ok document := by
  rw [ofValue_toValue framed, same]
  rfl

end Resource

end HealthLedger.Document
