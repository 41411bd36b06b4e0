import HealthLedger.Proofs.Document.Faithful
import HealthLedger.Proofs.Document.Transport
import HealthLedger.Proofs.Json.Editing

/-!
# Writing what was read

What a decoder reads from a map is written as the map again, with the changes that were made in
between and without what null stands for. Metadata that go to another namespace are the map with
the new namespace (`Metadata.toValue_of_ofValue`), and a job in another phase has the map of its
specification with the new phase (`JobSpec.toValue_of_ofValue`). Members that are no fields are
in neither case touched. If the numbers in the map are read as they are printed, so are those in
the members that a document keeps (`Resource.readable_of_ofValue`).
-/

namespace HealthLedger.Document

open Json (Value Members Object findMember notNull)

/-- A string that was read is there. -/
theorem Decoder.eq_string_of_ofValue {value : Value} {text : String}
    (read : Decoder.string.ofValue value = .ok text) : value = .string text := by
  cases value with
  | string held => exact congrArg Value.string (Except.ok.inj read)
  | null | bool | number | array | object => contradiction

/-- A string that was read for a key is the member of the key. -/
theorem Decoder.findMember_of_string {key : String} {members : Members} {result : Option String}
    (read : Decoder.string.member key members = .ok result) :
    findMember key members = result.map .string := by
  unfold member at read
  split at read
  · next nothing =>
    obtain rfl := Except.ok.inj read
    exact nothing
  · next value found =>
    obtain ⟨text, given, rfl⟩ := map_eq_ok_iff.1 read
    rw [found, eq_string_of_ofValue given]
    rfl

/-- A string that was read for a key if it is not null is the member of the key but for null. -/
theorem Decoder.notNull_findMember_of_string {key : String} {members : Members}
    {result : Option (Option String)}
    (read : Decoder.string.optional.member key members = .ok result) :
    notNull (findMember key members) = result.join.map .string := by
  unfold member at read
  split at read
  · next nothing =>
    obtain rfl := Except.ok.inj read
    rw [nothing]
    rfl
  · next value found =>
    obtain ⟨text, given, rfl⟩ := map_eq_ok_iff.1 read
    rw [found]
    cases value with
    | null =>
      obtain rfl := Except.ok.inj given
      rfl
    | string held =>
      obtain ⟨inner, readInner, rfl⟩ := map_eq_ok_iff.1 given
      rw [eq_string_of_ofValue readInner]
      rfl
    | bool | number | array | object =>
      obtain ⟨inner, failed, -⟩ := map_eq_ok_iff.1 given
      contradiction

/-- What is kept when the fields are taken out is found where no field is. -/
theorem find?_filter {keys : List String} {members : Members} (increasing : Json.Increasing members)
    {key : String} (other : key ∉ keys) :
    (Object.ofMembers (members.filter (·.1 ∉ keys))).find? key = findMember key members := by
  rw [Object.find?_ofMembers, Json.sortMembers_of_increasing (increasing.filter _),
    Json.findMember_filter key fun key => decide (key ∉ keys)]
  simp [other]

namespace Metadata

/-- What a map holds from which metadata were read. -/
structure ReadFrom (metadata : Metadata) (members : Members) : Prop where
  /-- The name is there. -/
  name : findMember "name" members = some (.string metadata.name)
  /-- The version is there, or null or nothing. -/
  version : notNull (findMember "resourceVersion" members) = metadata.version.map .string
  /-- The identity is there, or null or nothing. -/
  uid : notNull (findMember "uid" members) = metadata.uid.map .string
  /-- All other members are kept. -/
  extra : metadata.extra = .ofMembers (members.filter (·.1 ∉ keys))

/-- What was read from a value is there. -/
theorem readFrom_of_ofValue {value : Value} {metadata : Metadata}
    (read : decoder.ofValue value = .ok metadata) :
    ∃ members, value = .object members ∧ metadata.ReadFrom members := by
  obtain ⟨members, rfl, name, space, version, uid, givenName, -, givenVersion, givenUid, rfl⟩ :=
    ofValue_eq_ok_iff.1 read
  exact ⟨members, rfl, Decoder.findMember_of_string givenName,
    Decoder.notNull_findMember_of_string givenVersion,
    Decoder.notNull_findMember_of_string givenUid, rfl⟩

/-- Ordered metadata that were read are a map. -/
theorem isMap_of_ordered {value : Value} (ordered : value.Ordered) {metadata : Metadata}
    (read : decoder.ofValue value = .ok metadata) : value.IsMap := by
  obtain ⟨members, rfl, -⟩ := readFrom_of_ofValue read
  exact ordered.isMap

/-- The value of metadata that go to a namespace: with the namespace, and without a version and an
identity that are null. -/
def relocated (space : String) (value : Value) : Value :=
  ((value.withMember "namespace" (.string space)).withoutNull "resourceVersion").withoutNull "uid"

/-- Relocated metadata are a map if they were one. -/
theorem relocated_isMap {value : Value} (map : value.IsMap) (space : String) :
    (relocated space value).IsMap :=
  ((map.withMember _ _).withoutNull _).withoutNull _

/-- What relocated metadata hold. -/
theorem member?_relocated {value : Value} (map : value.IsMap) (space key : String) :
    (relocated space value).member? key =
      if "uid" = key ∨ "resourceVersion" = key then notNull (value.member? key)
      else if "namespace" = key then some (.string space) else value.member? key := by
  have placed := map.withMember "namespace" (.string space)
  have versioned := placed.withoutNull "resourceVersion"
  rw [relocated, versioned.member?_withoutNull, placed.member?_withoutNull,
    map.member?_withMember]
  by_cases uid : "uid" = key
  · subst uid
    simp
  · by_cases version : "resourceVersion" = key
    · subst version
      simp
    · simp [uid, version]

/-- Metadata that were read from a map are written as the map when they go to a namespace. -/
theorem toValue_of_ofValue {value : Value} (map : value.IsMap) {metadata : Metadata}
    (read : decoder.ofValue value = .ok metadata) (space : String) :
    Value.ofMembers (members { metadata with space }) = relocated space value := by
  have framed : metadata.Framed := framed_of_ofValue read
  have placed : Framed { metadata with space } := framed
  obtain ⟨held, rfl, readFrom⟩ := readFrom_of_ofValue read
  refine (Value.isMap_ofMembers _).ext (relocated_isMap map space) fun key => ?_
  rw [Value.member?_ofMembers, find?_members placed, member?_relocated map]
  obtain ⟨_, same, increasing⟩ := map
  obtain rfl := Value.object.inj same
  by_cases field : key ∈ keys
  · rw [framed.find?_eq_none field, Option.or_none, Value.member?]
    simp only [keys, List.mem_cons, List.not_mem_nil, or_false] at field
    rcases field with rfl | rfl | rfl | rfl
    · simp [fields, findMember, readFrom.name]
    · simp [fields, findMember]
    · rw [if_pos (.inr rfl), readFrom.version]
      cases metadata.version <;> cases metadata.uid <;> simp [fields, findMember]
    · rw [if_pos (.inl rfl), readFrom.uid]
      cases metadata.version <;> cases metadata.uid <;> simp [fields, findMember]
  · have nothing : findMember key (fields { metadata with space }) = none :=
      Json.findMember_eq_none fun member found same =>
        field (same ▸ fields_named _ member found)
    rw [nothing, readFrom.extra, find?_filter increasing field]
    simp only [keys, List.mem_cons, List.not_mem_nil, or_false, not_or] at field
    obtain ⟨-, notSpace, notVersion, notUid⟩ := field
    simp [Ne.symm notSpace, Ne.symm notVersion, Ne.symm notUid, Value.member?]

end Metadata

namespace JobSpec

/-- What was read from a value is there: the members that are no fields are kept. -/
theorem readFrom_of_ofValue {value : Value} {spec : JobSpec}
    (read : decoder.ofValue value = .ok spec) :
    ∃ members, value = .object members ∧
      spec.extra = .ofMembers (members.filter (·.1 ∉ keys)) := by
  obtain ⟨members, rfl, phase, -, rfl⟩ := ofValue_eq_ok_iff.1 read
  exact ⟨members, rfl, rfl⟩

/-- An ordered specification that was read is a map. -/
theorem isMap_of_ordered {value : Value} (ordered : value.Ordered) {spec : JobSpec}
    (read : decoder.ofValue value = .ok spec) : value.IsMap := by
  obtain ⟨members, rfl, -⟩ := readFrom_of_ofValue read
  exact ordered.isMap

/-- A specification that was read from a map is written as the map with the new phase when it is in
another phase. -/
theorem toValue_of_ofValue {value : Value} (map : value.IsMap) {spec : JobSpec}
    (read : decoder.ofValue value = .ok spec) (phase : Phase) :
    Value.ofMembers (members { spec with phase }) = value.withMember "phase" phase.toValue := by
  have framed : spec.Framed := (framed_of_ofValue read).1
  obtain ⟨held, rfl, extra⟩ := readFrom_of_ofValue read
  obtain ⟨_, same, increasing⟩ := map
  obtain rfl := Value.object.inj same
  have map : (Value.object held).IsMap := ⟨held, rfl, increasing⟩
  have written := Object.findMember_sortMembers_fields
    (show (([("phase", phase.toValue)] : Members).map (·.1)).Nodup by simp)
    (show ∀ field ∈ ([("phase", phase.toValue)] : Members), field.1 ∈ keys by simp [keys]) framed
  refine (Value.isMap_ofMembers _).ext (map.withMember _ _) fun key => ?_
  rw [map.member?_withMember]
  refine (written key).trans ?_
  by_cases field : "phase" = key
  · simp [findMember, field]
  · rw [extra, find?_filter increasing (by simpa [keys] using Ne.symm field)]
    simp [findMember, field, Value.member?]

end JobSpec

namespace Resource

variable {kind : Kind}

/-- What a map holds from which a document was read. -/
structure ReadFrom (document : Resource kind) (members : Members) : Prop where
  /-- The metadata were read from what is there. -/
  metadata : ∃ value, findMember "metadata" members = some value ∧
    Metadata.decoder.ofValue value = .ok document.metadata
  /-- The specification was read from what is there. -/
  spec : ∃ value, findMember "spec" members = some value ∧
    kind.specDecoder.ofValue value = .ok document.spec
  /-- All other members are kept. -/
  extra : document.extra = .ofMembers (members.filter (·.1 ∉ keys))

/-- What was read from a value is there. -/
theorem readFrom_of_ofValue {value : Value} {document : Resource kind}
    (read : (decoder kind).ofValue value = .ok document) :
    ∃ members, value = .object members ∧ document.ReadFrom members := by
  obtain ⟨members, rfl, metadata, spec, givenMetadata, givenSpec, rfl⟩ := ofValue_eq_ok_iff.1 read
  exact ⟨members, rfl, Decoder.member_eq_ok givenMetadata, Decoder.member_eq_ok givenSpec, rfl⟩

/-- An ordered document that was read is a map. -/
theorem isMap_of_ordered {value : Value} (ordered : value.Ordered) {document : Resource kind}
    (read : (decoder kind).ofValue value = .ok document) : value.IsMap := by
  obtain ⟨members, rfl, -⟩ := readFrom_of_ofValue read
  exact ordered.isMap

/-- The metadata that are there are those that were read. -/
theorem ofValue_metadata {value held : Value} {document : Resource kind}
    (read : (decoder kind).ofValue value = .ok document)
    (there : value.member? "metadata" = some held) :
    Metadata.decoder.ofValue held = .ok document.metadata := by
  obtain ⟨members, rfl, readFrom⟩ := readFrom_of_ofValue read
  obtain ⟨_, found, given⟩ := readFrom.metadata
  obtain rfl := Option.some.inj (found.symm.trans there)
  exact given

/-- The specification that is there is the one that was read. -/
theorem ofValue_spec {value held : Value} {document : Resource kind}
    (read : (decoder kind).ofValue value = .ok document)
    (there : value.member? "spec" = some held) :
    kind.specDecoder.ofValue held = .ok document.spec := by
  obtain ⟨members, rfl, readFrom⟩ := readFrom_of_ofValue read
  obtain ⟨_, found, given⟩ := readFrom.spec
  obtain rfl := Option.some.inj (found.symm.trans there)
  exact given

/-- A document with what another one keeps that was read from a map, and with metadata and a
specification that are written as what was read there is changed, is written as the map with these
changes. -/
theorem toValue_of_ofValue {value : Value} (map : value.IsMap) {document : Resource kind}
    (read : (decoder kind).ofValue value = .ok document) {sent : Resource kind}
    (framed : sent.Framed) (extra : sent.extra = document.extra)
    {metadataChange specChange : Value → Value}
    (metadata : ∀ held, value.member? "metadata" = some held →
      Value.ofMembers sent.metadata.members = metadataChange held)
    (spec : ∀ held, value.member? "spec" = some held →
      Value.ofMembers (kind.specMembers sent.spec) = specChange held) :
    sent.toValue = (value.withChanged "metadata" metadataChange).withChanged "spec" specChange := by
  obtain ⟨members, rfl, readFrom⟩ := readFrom_of_ofValue read
  obtain ⟨heldMetadata, thereMetadata, -⟩ := readFrom.metadata
  obtain ⟨heldSpec, there, -⟩ := readFrom.spec
  obtain ⟨_, same, increasing⟩ := map
  obtain rfl := Value.object.inj same
  have map : (Value.object members).IsMap := ⟨members, rfl, increasing⟩
  have moved := map.withChanged "metadata" metadataChange
  refine (Value.isMap_ofMembers _).ext (moved.withChanged "spec" specChange) fun key => ?_
  rw [Value.member?_ofMembers, find?_members framed, moved.member?_withChanged,
    map.member?_withChanged]
  by_cases field : key ∈ keys
  · rw [framed.extra.find?_eq_none field, Option.or_none]
    simp only [keys, List.mem_cons, List.not_mem_nil, or_false] at field
    rcases field with rfl | rfl
    · simp [fields, findMember, metadata heldMetadata thereMetadata, Value.member?, thereMetadata]
    · simp [fields, findMember, spec heldSpec there, Value.member?, there]
  · have nothing : findMember key sent.fields = none :=
      Json.findMember_eq_none fun member found same => field (same ▸ sent.fields_named member found)
    rw [nothing, extra, readFrom.extra, find?_filter increasing field]
    simp only [keys, List.mem_cons, List.not_mem_nil, or_false, not_or] at field
    obtain ⟨notMetadata, notSpec⟩ := field
    simp [Ne.symm notMetadata, Ne.symm notSpec, Value.member?]

/-- The name of a document that was read is that of the metadata there. -/
theorem member?_name_of_ofValue {value : Value} {document : Resource kind}
    (read : (decoder kind).ofValue value = .ok document) :
    (value.member? "metadata").bind (·.member? "name") = some (.string document.name) := by
  obtain ⟨members, rfl, readFrom⟩ := readFrom_of_ofValue read
  obtain ⟨metadata, found, given⟩ := readFrom.metadata
  obtain ⟨held, rfl, inner⟩ := Metadata.readFrom_of_ofValue given
  rw [Value.member?, found]
  exact inner.name

end Resource

/-- Members that are kept from readable members are readable. -/
theorem readable_of_filter {members : Members} (readable : (Value.object members).Readable)
    (keep : String × Value → Bool) :
    ∀ member ∈ (Object.ofMembers (members.filter keep)).members, member.2.Readable := by
  intro member found
  have inside := (List.mem_filter.1 (Json.mem_of_mem_sortMembers found)).1
  exact Json.readableMembers_iff.1 readable member inside

/-- What a readable value holds is readable. -/
theorem readable_of_findMember {members : Members} {key : String} {member : Value}
    (readable : (Value.object members).Readable)
    (found : Json.findMember key members = some member) : member.Readable :=
  Json.readableMembers_iff.1 readable (key, member) (Json.mem_of_findMember found)

/-- A document that was read from a readable value is readable. -/
theorem Resource.readable_of_ofValue {kind : Kind} {value : Value} {document : Resource kind}
    (read : (decoder kind).ofValue value = .ok document) (readable : value.Readable) :
    document.Readable := by
  obtain ⟨members, rfl, readFrom⟩ := readFrom_of_ofValue read
  obtain ⟨metadata, thereMetadata, readMetadata⟩ := readFrom.metadata
  obtain ⟨spec, there, readSpec⟩ := readFrom.spec
  obtain ⟨inner, rfl, metadataFrom⟩ := Metadata.readFrom_of_ofValue readMetadata
  refine ⟨?_, ?_, ?_⟩
  · rw [metadataFrom.extra]
    exact readable_of_filter (readable_of_findMember readable thereMetadata) _
  · cases kind with
    | checkState => trivial
    | checkJob =>
      obtain ⟨held, rfl, extra⟩ := JobSpec.readFrom_of_ofValue readSpec
      intro member found
      rw [extra] at found
      exact readable_of_filter (readable_of_findMember readable there) _ member found
  · rw [readFrom.extra]
    exact readable_of_filter readable _

end HealthLedger.Document
