import HealthLedger.Proofs.Document.Rewriting
import HealthLedger.Proofs.Document.Timely

/-!
# The normal form of a value

A part that is decoded from a value and written again has another value: its normal form
(`Part.normal`). Of metadata, of the specification of a job and of a document only what the decoder
reads into is touched: a field that is missing is written, and a field that is null and may be
missing is not. Details are written anew from their fields, each in the spelling of this library.
The normal form is decoded to the same part, and is its own normal form
(`Part.written_in_normal_form`). It is enough to prove what is written: the part that was read is
read back from what is written, and so the second result is the first one, for another value.
-/

namespace HealthLedger.Document

open Json (Value Members findMember)

/-- The normal form of metadata: with a namespace, and without a version and an identity that are
null. -/
def Metadata.normal (value : Value) : Value :=
  ((value.withDefault "namespace" (.string "")).withoutNull "resourceVersion").withoutNull "uid"

/-- The normal form of the specification of a job: with a phase. -/
def JobSpec.normal (value : Value) : Value := value.withDefault "phase" (.string "")

/-- An instant in the spelling of this library. -/
def respellInstant : Value → Value
  | .string text =>
    match Time.Instant.parse text with
    | .ok instant => .string instant.text
    | .error _ => .string text
  | value => value

namespace Workload

/-- The name that stands for a name of an older format. -/
def currentName (name : String) : String :=
  if name = "KuberhealthyCheck" then "check" else if name = "KuberhealthyJob" then "job" else name

/-- A workload in the spelling of this library: a current name, alone. -/
def respell : Value → Value
  | .string name => .string (currentName name)
  | .object [(name, .null)] => .string (currentName name)
  | value => value

end Workload

namespace Details

/-- What is written for the fields that are missing, in the order of the fields. -/
def defaults : Members :=
  [("ok", .bool false), ("errors", .array []), ("runDuration", .string ""),
   ("namespace", .string ""), ("lastRun", .null), ("authoritativePod", .string ""),
   ("currentUUID", .string ""), ("workload", .string "check")]

/-- The value of a field in the spelling of this library. -/
def respell (key : String) : Value → Value :=
  if key = "lastRun" then respellInstant
  else if key = "workload" then Workload.respell
  else id

/-- An array as the object that has the items under the keys of the fields. -/
def spread : Value → Value
  | .array items => .object (keys.zip items)
  | value => value

/-- The normal form of details: all fields and nothing else, with the value that is there in the
spelling of this library, or else with the default. -/
def normal (value : Value) : Value :=
  .ofMembers (defaults.map fun (key, default) =>
    (key, (((spread value).member? key).map (respell key)).getD default))

end Details

/-- The normal form of a specification. -/
def Kind.specNormal : Kind → Value → Value
  | .checkState => Details.normal
  | .checkJob => JobSpec.normal

/-- The normal form of a document: with metadata and a specification in normal form. -/
def Resource.normal (kind : Kind) (value : Value) : Value :=
  (value.withChanged "metadata" Metadata.normal).withChanged "spec" kind.specNormal

/-- The normal form of a part. -/
def Part.normal : Part → Value → Value
  | .metadata => Metadata.normal
  | .details => Details.normal
  | .workload => Workload.respell
  | .phase => id
  | .jobSpec => JobSpec.normal
  | .document kind => Resource.normal kind

namespace Decoder

/-- What is read from a value is written as the value, respelled. -/
def Writes {α : Type} (decoder : Decoder α) (encode : α → Value) (respell : Value → Value) :
    Prop :=
  ∀ value content, decoder.ofValue value = .ok content → encode content = respell value

/-- Truth values are written as they were. -/
theorem bool_writes : bool.Writes .bool id := fun _ _ read => (bool_eq_ok_iff.1 read).symm

/-- Strings are written as they were. -/
theorem string_writes : string.Writes .string id := fun _ _ read => (string_eq_ok_iff.1 read).symm

/-- Arrays of strings are written as they were. -/
theorem strings_writes : string.list.Writes (fun texts => .array (texts.map .string)) id :=
  fun _ _ read => (strings_eq_ok_iff.1 read).symm

/-- Phases are written as they were. -/
theorem phase_writes : Phase.decoder.Writes Phase.toValue id := by
  intro value phase read
  obtain ⟨token, given, rfl⟩ := map_eq_ok_iff.1 read
  rw [Phase.toValue, Phase.token_ofToken]
  exact string_writes value token given

/-- An instant is written in the spelling of this library, and null as it was. -/
theorem instant_writes :
    Decoder.instant.optional.Writes
      (fun lastRun => (lastRun.map fun instant => Value.string instant.text).getD .null)
      respellInstant := by
  intro value lastRun read
  rcases optional_eq_ok_iff.1 read with ⟨rfl, rfl⟩ | ⟨-, instant, given, rfl⟩
  · rfl
  · obtain ⟨text, rfl, parsed⟩ := instant_eq_ok_iff.1 given
    simp only [respellInstant, parsed]
    rfl

/-- Workloads are written in the spelling of this library. -/
theorem workload_writes : Workload.decoder.Writes Workload.toValue Workload.respell := by
  intro value workload read
  obtain ⟨name, chosen, written⟩ := choice_eq_ok_iff.1 read
  have current : workload.name = Workload.currentName name := by
    simp only [Workload.choices, List.lookup_cons, List.lookup_nil] at chosen
    unfold Workload.currentName
    grind [Workload.name]
  rcases written with rfl | rfl
  all_goals exact congrArg Value.string current

/-- What is read for a key, or a default, is written as what stands under the key, respelled, or as
the default. -/
theorem Writes.getD {α : Type} {decoder : Decoder α} {encode : α → Value}
    {respell : Value → Value} (writes : decoder.Writes encode respell) {key : String}
    {members : Members} {result : Option α} (read : decoder.member key members = .ok result)
    (default : α) :
    encode (result.getD default) =
      (((Value.object members).member? key).map respell).getD (encode default) := by
  unfold member at read
  split at read
  · next nothing =>
    obtain rfl := Except.ok.inj read
    simp [Value.member?, nothing]
  · next value found =>
    obtain ⟨content, given, rfl⟩ := map_eq_ok_iff.1 read
    simp [Value.member?, found, writes value content given]

end Decoder

/-- The namespace that was read is the one that is there, or empty. -/
theorem Metadata.space_of_ofValue {value : Value} {metadata : Metadata}
    (read : decoder.ofValue value = .ok metadata) :
    Value.string metadata.space = (value.member? "namespace").getD (.string "") := by
  obtain ⟨members, rfl, name, space, version, uid, -, givenSpace, -, -, rfl⟩ :=
    ofValue_eq_ok_iff.1 read
  simpa using Decoder.string_writes.getD givenSpace ""

/-- Metadata that were read from a map are written in its normal form. -/
theorem Metadata.toValue_eq_normal {value : Value} (map : value.IsMap) {metadata : Metadata}
    (read : decoder.ofValue value = .ok metadata) :
    Value.ofMembers metadata.members = normal value := by
  rw [normal, map.withDefault_eq, ← space_of_ofValue read]
  exact toValue_of_ofValue map read metadata.space

/-- The phase that was read is the one that is there, or empty. -/
theorem JobSpec.phase_of_ofValue {value : Value} {spec : JobSpec}
    (read : decoder.ofValue value = .ok spec) :
    spec.phase.toValue = (value.member? "phase").getD (.string "") := by
  obtain ⟨members, rfl, phase, given, rfl⟩ := ofValue_eq_ok_iff.1 read
  simpa [Phase.toValue, Phase.token] using Decoder.phase_writes.getD given .unset

/-- A specification of a job that was read from a map is written in its normal form. -/
theorem JobSpec.toValue_eq_normal {value : Value} (map : value.IsMap) {spec : JobSpec}
    (read : decoder.ofValue value = .ok spec) :
    Value.ofMembers spec.members = normal value := by
  rw [normal, map.withDefault_eq, ← phase_of_ofValue read]
  exact toValue_of_ofValue map read spec.phase

namespace Details

/-- Details that were read from members are written in the normal form of the object. -/
theorem toValue_of_ofMembers {members : Members} {details : Details}
    (read : ofMembers members = .ok details) :
    Value.ofMembers details.members = normal (.object members) := by
  obtain ⟨draft, reads, rfl⟩ := ofMembers_eq_ok_iff.1 read
  -- Of every field, what was read or its default is what the normal form has under its key.
  have ok := Decoder.bool_writes.getD reads.ok false
  have errors := Decoder.strings_writes.getD reads.errors []
  have duration := Decoder.string_writes.getD reads.runDuration ""
  have space := Decoder.string_writes.getD reads.space ""
  have lastRun := Decoder.instant_writes.getD reads.lastRun none
  have pod := Decoder.string_writes.getD reads.authoritativePod ""
  have uuid := Decoder.string_writes.getD reads.currentUuid ""
  have workload := Decoder.workload_writes.getD reads.workload .check
  have joined : draft.lastRun.join = draft.lastRun.getD none := by cases draft.lastRun <;> rfl
  rw [Details.members, Draft.finish, joined, ok, errors, duration, space, lastRun, pod, uuid,
    workload]
  simp [normal, defaults, spread, respell, Workload.toValue, Workload.name]

/-- Details that were read are written in the normal form of the value. -/
theorem toValue_eq_normal {value : Value} {details : Details}
    (read : decoder.ofValue value = .ok details) :
    Value.ofMembers details.members = normal value := by
  cases value with
  | object members => exact toValue_of_ofMembers read
  | array items => exact toValue_of_ofMembers (ofItems_eq_ok_iff_ofMembers.1 read).2
  | null | bool | number | string => contradiction

end Details

namespace Kind

variable {kind : Kind}

/-- The specification of a kind is a map if its members are kept. -/
def SpecMapped : Kind → Value → Prop
  | .checkState, _ => True
  | .checkJob, value => value.IsMap

/-- A specification that was read from an ordered value was read from a map if its members are
kept. -/
theorem specMapped_of_ordered {value : Value} (ordered : value.Ordered) {spec : kind.Spec}
    (read : kind.specDecoder.ofValue value = .ok spec) : kind.SpecMapped value := by
  cases kind with
  | checkState => trivial
  | checkJob => exact JobSpec.isMap_of_ordered ordered read

/-- A specification is written as a map. -/
theorem specMapped_specMembers (spec : kind.Spec) :
    kind.SpecMapped (.ofMembers (kind.specMembers spec)) := by
  cases kind with
  | checkState => trivial
  | checkJob => exact Value.isMap_ofMembers _

/-- A specification that was read from a map is written in its normal form. -/
theorem toValue_eq_specNormal {value : Value} (mapped : kind.SpecMapped value) {spec : kind.Spec}
    (read : kind.specDecoder.ofValue value = .ok spec) :
    Value.ofMembers (kind.specMembers spec) = kind.specNormal value := by
  cases kind with
  | checkState => exact Details.toValue_eq_normal read
  | checkJob => exact JobSpec.toValue_eq_normal mapped read

end Kind

namespace Resource

variable {kind : Kind} {value : Value} {document : Resource kind}

/-- A document is a map, and so is every part of it whose members are kept. -/
structure Mapped (kind : Kind) (value : Value) : Prop where
  /-- The document is a map. -/
  document : value.IsMap
  /-- The metadata are a map. -/
  metadata : value.MayHave "metadata" Value.IsMap
  /-- The specification is a map if its members are kept. -/
  spec : value.MayHave "spec" kind.SpecMapped

/-- A document that was read from an ordered value was read from a map of maps. -/
theorem mapped_of_ordered (ordered : value.Ordered)
    (read : (decoder kind).ofValue value = .ok document) : Mapped kind value := by
  refine ⟨isMap_of_ordered ordered read, fun held there => ?_, fun held there => ?_⟩
  · exact Metadata.isMap_of_ordered (ordered.member? there) (ofValue_metadata read there)
  · exact Kind.specMapped_of_ordered (ordered.member? there) (ofValue_spec read there)

/-- A document that is framed is written as a map of maps. -/
theorem mapped_toValue (framed : document.Framed) : Mapped kind document.toValue := by
  refine ⟨Value.isMap_ofMembers _, fun held there => ?_, fun held there => ?_⟩
  all_goals rw [toValue, Value.member?_ofMembers, find?_members framed] at there
  · obtain rfl := Option.some.inj there
    exact Value.isMap_ofMembers _
  · obtain rfl := Option.some.inj there
    exact Kind.specMapped_specMembers _

/-- A document that was read from a map of maps is written in its normal form. -/
theorem toValue_eq_normal (mapped : Mapped kind value)
    (read : (decoder kind).ofValue value = .ok document) :
    document.toValue = normal kind value := by
  refine toValue_of_ofValue mapped.document read (framed_of_ofValue read).1 rfl
    (fun held there => ?_) (fun held there => ?_)
  · exact Metadata.toValue_eq_normal (mapped.metadata held there) (ofValue_metadata read there)
  · exact Kind.toValue_eq_specNormal (mapped.spec held there) (ofValue_spec read there)

end Resource

namespace Part

variable {part : Part} {value : Value} {content : part.Content}

/-- Every object whose members are kept is a map. -/
def Mapped : Part → Value → Prop
  | .metadata, value => value.IsMap
  | .jobSpec, value => value.IsMap
  | .document kind, value => Resource.Mapped kind value
  | _, _ => True

/-- What was read from an ordered value was read from maps. -/
theorem mapped_of_ordered (ordered : value.Ordered)
    (read : part.decoder.ofValue value = .ok content) : part.Mapped value := by
  cases part with
  | metadata => exact Metadata.isMap_of_ordered ordered read
  | jobSpec => exact JobSpec.isMap_of_ordered ordered read
  | document kind => exact Resource.mapped_of_ordered ordered read
  | details | workload | phase => trivial

/-- What is well-formed is written as maps. -/
theorem WellFormed.mapped_toValue (wellFormed : part.WellFormed content) :
    part.Mapped (part.toValue content) := by
  cases part with
  | metadata | jobSpec => exact Value.isMap_ofMembers _
  | document kind => exact Resource.mapped_toValue wellFormed.1
  | details | workload | phase => trivial

/-- What was read from maps is written in their normal form. -/
theorem Mapped.toValue_eq_normal (mapped : part.Mapped value)
    (read : part.decoder.ofValue value = .ok content) :
    part.toValue content = part.normal value := by
  cases part with
  | metadata => exact Metadata.toValue_eq_normal mapped read
  | details => exact Details.toValue_eq_normal read
  | workload => exact Decoder.workload_writes value content read
  | phase => exact Decoder.phase_writes value content read
  | jobSpec => exact JobSpec.toValue_eq_normal mapped read
  | document kind => exact Resource.toValue_eq_normal mapped read

/-- The time in a part that was read, if there is one, is read as it is written. -/
theorem timely_of_ofValue (read : part.decoder.ofValue value = .ok content) :
    part.Timely content := by
  cases part with
  | details => exact Details.decoder_yields.ofValue read
  | document kind => exact Resource.decoder_yields.ofValue read
  | metadata | workload | phase | jobSpec => trivial

/-- A part that was decoded from an ordered value, as every value that was parsed is, is written in
the normal form of the value, which is decoded to the same part and is its own normal form. -/
theorem written_in_normal_form (part : Part) {value : Value} (ordered : value.Ordered)
    {content : part.Content} (decoded : part.decoder.decodeValue value = .ok content) :
    part.toValue content = part.normal value ∧
      part.decoder.decodeValue (part.normal value) = .ok content ∧
      part.normal (part.normal value) = part.normal value := by
  have read := mapError_eq_ok_iff.1 decoded
  have wellFormed := wellFormed_of_ofValue read
  have written := (mapped_of_ordered ordered read).toValue_eq_normal read
  -- What is written is made of maps and is read again, so it is the normal form of itself too.
  have again := wellFormed.ofValue_toValue (timely_of_ofValue read)
  have same := wellFormed.mapped_toValue.toValue_eq_normal again
  rw [← written]
  exact ⟨rfl, mapError_eq_ok_iff.2 again, same.symm⟩

/-- A state with its details in an array, the time of its last run given with an offset and its
workload by an old name, and with members of others. -/
def unsettledState : Value :=
  .ofMembers
    [("metadata", .ofMembers
       [("name", .string "api"), ("uid", .null), ("generation", .number (.integer 1))]),
     ("spec", .array
       [.bool true, .array [.string "late"], .string "1s", .string "ops",
        .string "2024-05-01T10:00:00+02:00", .string "pod-0", .string "u-1",
        .object [("KuberhealthyJob", .null)]]),
     ("status", .null)]

/-- The state with its details under their keys and in the spelling of this library. -/
def settledState : Value :=
  .ofMembers
    [("metadata", .ofMembers
       [("name", .string "api"), ("namespace", .string ""), ("generation", .number (.integer 1))]),
     ("spec", .ofMembers
       [("ok", .bool true), ("errors", .array [.string "late"]), ("runDuration", .string "1s"),
        ("namespace", .string "ops"), ("lastRun", .string "2024-05-01T08:00:00Z"),
        ("authoritativePod", .string "pod-0"), ("currentUUID", .string "u-1"),
        ("workload", .string "job")]),
     ("status", .null)]

/-- The state is decoded, written as the settled state, and decoded from it again. -/
theorem unsettledState_settles :
    unsettledState.Ordered ∧ ∃ state : CheckState,
      (Resource.decoder .checkState).decodeValue unsettledState = .ok state ∧
      state.toValue = settledState ∧
      (Resource.decoder .checkState).decodeValue settledState = .ok state ∧
      Resource.normal .checkState settledState = settledState := by
  have ordered : unsettledState.Ordered := by
    refine Value.ordered_ofMembers ?_
    simp [Value.ordered_ofMembers, Value.Ordered, Value.OrderedItems, Value.OrderedMembers,
      Json.Increasing]
  have normal : normal (.document .checkState) unsettledState = settledState := by
    rfl
  obtain ⟨state, decoded, -⟩ := toOption_map_eq_some_iff.1
    (show ((decoder (.document .checkState)).decodeValue unsettledState).toOption.map
      (fun _ => ()) = some () by rfl)
  have settles := written_in_normal_form (.document .checkState) ordered decoded
  rw [normal] at settles
  exact ⟨ordered, state, decoded, settles⟩

end Part

end HealthLedger.Document
