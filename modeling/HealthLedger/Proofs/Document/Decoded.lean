import HealthLedger.Proofs.Document.RoundTrip
import HealthLedger.Proofs.Json.Sendable

/-!
# Documents that were decoded

What a value must hold for a record to be read from it, and what is then read, is said once for
each record (`Resource.ofValue_eq_ok_iff`). A decoder keeps a member only if its key is none of a
field, and from a text only if there is room for the nesting of its value
(`Resource.keeps_of_ofTree`). So a document that was decoded, from a value or from a text, is
framed. The phase of a decoded job is the phase of its token, and so it comes back from the value
of the document (`Resource.Decoded.framed`).
-/

namespace HealthLedger

namespace Json

/-- An object of members without some keys avoids these keys. -/
theorem Object.ofMembers_avoids {members : Members} {keys : List String}
    (without : ∀ member ∈ members, member.1 ∉ keys) : (ofMembers members).Avoids keys :=
  fun member found => without member (mem_of_mem_sortMembers found)

end Json

namespace Document

open Json (Value Members Object Tree Items Entries)

/-- A member that was read is there, and its value was read. -/
theorem Decoder.member_eq_ok {α : Type} {decoder : Decoder α} {key : String} {members : Members}
    {result : α} (read : decoder.member key members = .ok (some result)) :
    ∃ value, Json.findMember key members = some value ∧ decoder.ofValue value = .ok result := by
  unfold Decoder.member at read
  split at read
  · exact nomatch Except.ok.inj read
  · next value found =>
    obtain ⟨read, given, same⟩ := map_eq_ok_iff.1 read
    obtain rfl := Option.some.inj same
    exact ⟨value, found, given⟩

namespace Shape

variable {δ : Type}

/-- The field that is read for a name is a field, and if there is none, no field has the name. -/
theorem fieldFor_eq_ok {shape : Shape δ} {draft : δ} {name : String} {key : Json.Key}
    {chosen : Option (Field δ)} (found : shape.fieldFor draft name key = .ok chosen) :
    (∀ field ∈ chosen, field ∈ shape.fields) ∧
      (chosen = none → ∀ field ∈ shape.fields, field.name ≠ name) := by
  unfold fieldFor at found
  split at found
  · next absent =>
    obtain rfl := Except.ok.inj found
    refine ⟨by simp, fun _ field inside same => ?_⟩
    have := List.find?_eq_none.1 absent field inside
    simp [same] at this
  · next field there =>
    split at found
    · contradiction
    · obtain rfl := Except.ok.inj found
      refine ⟨fun other same => ?_, by simp⟩
      obtain rfl := Option.some.inj same
      exact List.mem_of_find?_eq_some there

/-- A property of drafts that every field keeps, and that keeping a member which is no field
keeps, holds of what is read from an object. -/
theorem readEntries_keeps {shape : Shape δ} {motive : δ → Prop} {room : Nat}
    (fields : ∀ field ∈ shape.fields, ∀ draft tree next,
      motive draft → field.read room draft tree = .ok next → motive next)
    (others : ∀ keep ∈ shape.keep, ∀ draft name value (tree : Tree), tree.read room = .ok value →
      motive draft → (∀ field ∈ shape.fields, field.name ≠ name) →
      motive (keep draft name value))
    {draft : δ} {entries : Entries} {result : δ × Nat} (start : motive draft)
    (read : shape.readEntries room draft entries = .ok result) : motive result.1 := by
  fun_induction shape.readEntries room draft entries with
  | case1 draft start stop =>
    obtain rfl := Except.ok.inj read
    exact start
  | case2 => contradiction
  | case3 => contradiction
  | case4 =>
    obtain ⟨name, -, read⟩ := bind_eq_ok_iff.1 read
    obtain ⟨chosen, -, failed⟩ := bind_eq_ok_iff.1 read
    contradiction
  | case5 draft start key value rest ih =>
    obtain ⟨name, -, read⟩ := bind_eq_ok_iff.1 read
    obtain ⟨chosen, found, read⟩ := bind_eq_ok_iff.1 read
    have known := fieldFor_eq_ok found
    cases chosen with
    | some field =>
      obtain ⟨next, filled, read⟩ := bind_eq_ok_iff.1 read
      exact ih next (fields field (known.1 field rfl) draft value next ‹_› filled) read
    | none =>
      obtain ⟨next, kept, read⟩ := bind_eq_ok_iff.1 read
      refine ih next ?_ read
      cases keep : shape.keep with
      | none =>
        simp only [readOther, keep] at kept
        obtain ⟨_, -, same⟩ := bind_eq_ok_iff.1 kept
        obtain rfl := Except.ok.inj same
        assumption
      | some keeper =>
        simp only [readOther, keep] at kept
        obtain ⟨held, given, same⟩ := bind_eq_ok_iff.1 kept
        obtain rfl := Except.ok.inj same
        exact others keeper keep draft name held value (mapError_eq_ok_iff.1 given) ‹_›
          (known.2 rfl)

/-- A property of drafts that every field keeps holds of what is read from the items of an array. -/
theorem readItems_keeps {motive : δ → Prop} {room : Nat} {fields : List (Field δ)}
    (keeps : ∀ field ∈ fields, ∀ draft tree next,
      motive draft → field.read room draft tree = .ok next → motive next)
    {draft : δ} {items : Items} {result : δ × Items} (start : motive draft)
    (read : readItems room draft fields items = .ok result) : motive result.1 := by
  fun_induction readItems room draft fields items with
  | case1 => exact Except.ok.inj read ▸ start
  | case2 => exact Except.ok.inj read ▸ start
  | case3 => contradiction
  | case4 draft field fields value rest ih =>
    obtain ⟨next, filled, read⟩ := bind_eq_ok_iff.1 read
    have further := keeps field List.mem_cons_self draft value next start filled
    exact ih next (fun other inside => keeps other (List.mem_cons_of_mem _ inside)) further read

/-- What is read from the tree of an object is a finished draft with every property that holds
of the empty one and is kept. -/
theorem ofTree_eq_ok {α : Type} {shape : Shape δ} {motive : δ → Prop} {room : Nat}
    (fields : ∀ field ∈ shape.fields, ∀ draft tree next,
      motive draft → field.read (room - 1) draft tree = .ok next → motive next)
    (others : ∀ keep ∈ shape.keep, ∀ draft name value (tree : Tree),
      tree.read (room - 1) = .ok value → motive draft →
      (∀ field ∈ shape.fields, field.name ≠ name) → motive (keep draft name value))
    {title : String} {empty : δ} {finish : δ → Except Mismatch α} {tree : Tree} {result : α}
    (start : motive empty)
    (read : shape.ofTree title empty finish room tree = .ok result) :
    ∃ draft, motive draft ∧ finish draft = .ok result := by
  unfold ofTree at read
  split at read
  · obtain ⟨inner, entered, read⟩ := bind_eq_ok_iff.1 read
    obtain ⟨⟨draft, stop⟩, entries, read⟩ := bind_eq_ok_iff.1 read
    obtain ⟨-, below⟩ := Json.enter_eq_ok_iff.1 (mapError_eq_ok_iff.1 entered)
    rw [below] at entries
    exact ⟨draft, readEntries_keeps fields others start entries, mapError_eq_ok_iff.1 read⟩
  · contradiction

end Shape

/-- A field that is kept as a part of the draft does what setting that part does. -/
theorem Field.of_keeps {δ α : Type} {motive : δ → Prop} {name : String} {decoder : Decoder α}
    {get : δ → Option α} {set : δ → α → δ} {room : Nat}
    (kept : ∀ draft value, motive draft → motive (set draft value))
    (draft : δ) (tree : Tree) (next : δ) (start : motive draft)
    (read : (Field.of name decoder get set).read room draft tree = .ok next) : motive next := by
  obtain ⟨value, -, same⟩ := map_eq_ok_iff.1 read
  exact same ▸ kept draft value start

/-- A member can be kept where fields have some keys: it has none of them, and its value was read
with some room for nesting. -/
structure Kept (keys : List String) (room : Nat) (member : String × Value) : Prop where
  /-- The key is none of a field. -/
  other : member.1 ∉ keys
  /-- The value was read. -/
  read : ∃ tree : Tree, tree.read room = .ok member.2

/-- Members that can be kept, with one more that can. -/
private theorem forall_kept_concat {keys : List String} {room : Nat} {members : Members}
    {name : String} {value : Value} {tree : Tree} (kept : ∀ member ∈ members, Kept keys room member)
    (other : name ∉ keys) (read : tree.read room = .ok value) :
    ∀ member ∈ members ++ [(name, value)], Kept keys room member :=
  List.forall_mem_append.2 ⟨kept, List.forall_mem_singleton.2 ⟨other, tree, read⟩⟩

/-- The members that are left when some keys are taken out do not have these keys. -/
private theorem forall_mem_filter {keys : List String} {members : Members} :
    ∀ member ∈ members.filter (·.1 ∉ keys), member.1 ∉ keys := by
  intro member found
  simpa using (List.mem_filter.1 found).2

namespace Metadata

/-- Metadata are read from an object with a name if what is there for the other fields is read; all
other members are kept. -/
theorem ofValue_eq_ok_iff {value : Value} {metadata : Metadata} :
    decoder.ofValue value = .ok metadata ↔
      ∃ members, value = .object members ∧ ∃ name space version uid,
        Decoder.string.member "name" members = .ok (some name) ∧
        Decoder.string.member "namespace" members = .ok space ∧
        Decoder.string.optional.member "resourceVersion" members = .ok version ∧
        Decoder.string.optional.member "uid" members = .ok uid ∧
        ⟨name, space.getD "", version.join, uid.join, .ofMembers (members.filter (·.1 ∉ keys))⟩ =
          metadata := by
  constructor
  · intro read
    cases value with
    | object members =>
      obtain ⟨name, givenName, readSpace⟩ :=
        bind_eq_ok_iff.1 (show ofMembers members = .ok metadata from read)
      obtain ⟨space, givenSpace, readVersion⟩ := bind_eq_ok_iff.1 readSpace
      obtain ⟨version, givenVersion, readUid⟩ := bind_eq_ok_iff.1 readVersion
      obtain ⟨uid, givenUid, last⟩ := bind_eq_ok_iff.1 readUid
      cases name with
      | none => contradiction
      | some name =>
        exact ⟨members, rfl, name, space, version, uid, givenName, givenSpace, givenVersion,
          givenUid, Except.ok.inj last⟩
    | null | bool | number | string | array => contradiction
  · rintro ⟨members, rfl, name, space, version, uid, givenName, givenSpace, givenVersion,
      givenUid, rfl⟩
    change ofMembers members = _
    rw [ofMembers, givenName, givenSpace, givenVersion, givenUid]
    rfl

/-- Metadata that were read from a value are framed. -/
theorem framed_of_ofValue {value : Value} {metadata : Metadata}
    (read : decoder.ofValue value = .ok metadata) : metadata.Framed := by
  obtain ⟨members, -, name, space, version, uid, -, -, -, -, rfl⟩ := ofValue_eq_ok_iff.1 read
  exact Object.ofMembers_avoids forall_mem_filter

/-- Metadata that were read from a text keep members that were read. -/
theorem keeps_of_ofTree {room : Nat} {tree : Tree} {metadata : Metadata}
    (read : decoder.ofTree room tree = .ok metadata) :
    ∀ member ∈ metadata.extra.members, Kept keys (room - 1) member := by
  have drafted : ∃ draft : Draft, (∀ member ∈ draft.extra, Kept keys (room - 1) member) ∧
      draft.finish = .ok metadata := by
    refine Shape.ofTree_eq_ok
      (motive := fun draft => ∀ member ∈ draft.extra, Kept keys (room - 1) member)
      (fun field named => ?_) (fun keep kept => ?_) (by simp) read
    · simp only [shape, List.mem_cons, List.not_mem_nil, or_false] at named
      rcases named with rfl | rfl | rfl | rfl <;>
        exact Field.of_keeps fun draft value start => start
    · obtain rfl := Option.some.inj kept
      intro draft name value tree given start other
      refine forall_kept_concat start ?_ given
      simpa [shape, keys, Field.of, eq_comm] using other
  obtain ⟨draft, kept, finished⟩ := drafted
  unfold Draft.finish at finished
  split at finished
  · contradiction
  · obtain rfl := Except.ok.inj finished
    exact fun member found => kept member (Json.mem_of_mem_sortMembers found)

end Metadata

namespace JobSpec

/-- A specification that comes back as it was when it is read back. -/
def Canonical (spec : JobSpec) : Prop := spec.reread = spec

/-- The phase of a token comes back as it was. -/
private theorem canonical_of_ofToken (token : String) (extra : Object) :
    Canonical ⟨.ofToken token, extra⟩ := by
  simp [Canonical, reread]

/-- The phase that a decoder reads is the phase of a token, and so is the phase of a job
without one. -/
private theorem getD_phase {phase : Option Phase}
    (tokens : ∀ read ∈ phase, ∃ token, read = .ofToken token) :
    ∃ token, phase.getD .unset = .ofToken token := by
  cases phase with
  | none => exact ⟨"", rfl⟩
  | some read => exact tokens read rfl

/-- A specification is read from an object if the phase is, if there is one; all other members are
kept. -/
theorem ofValue_eq_ok_iff {value : Value} {spec : JobSpec} :
    decoder.ofValue value = .ok spec ↔
      ∃ members, value = .object members ∧ ∃ phase,
        Phase.decoder.member "phase" members = .ok phase ∧
        ⟨phase.getD .unset, .ofMembers (members.filter (·.1 ∉ keys))⟩ = spec := by
  constructor
  · intro read
    cases value with
    | object members =>
      obtain ⟨phase, given, last⟩ :=
        bind_eq_ok_iff.1 (show ofMembers members = .ok spec from read)
      exact ⟨members, rfl, phase, given, Except.ok.inj last⟩
    | null | bool | number | string | array => contradiction
  · rintro ⟨members, rfl, phase, given, rfl⟩
    change ofMembers members = _
    rw [ofMembers, given]
    rfl

/-- A specification that was read from a value is framed and comes back as it was. -/
theorem framed_of_ofValue {value : Value} {spec : JobSpec}
    (read : decoder.ofValue value = .ok spec) : spec.Framed ∧ spec.Canonical := by
  obtain ⟨members, -, phase, given, rfl⟩ := ofValue_eq_ok_iff.1 read
  have tokens : ∀ read ∈ phase, ∃ token, read = Phase.ofToken token := by
    rintro read rfl
    obtain ⟨value, -, given⟩ := Decoder.member_eq_ok given
    obtain ⟨token, -, same⟩ := map_eq_ok_iff.1 given
    exact ⟨token, same.symm⟩
  obtain ⟨token, same⟩ := getD_phase tokens
  rw [same]
  exact ⟨Object.ofMembers_avoids forall_mem_filter, canonical_of_ofToken token _⟩

/-- A specification that was read from a text keeps members that were read, and comes back as it
was. -/
theorem keeps_of_ofTree {room : Nat} {tree : Tree} {spec : JobSpec}
    (read : decoder.ofTree room tree = .ok spec) :
    (∀ member ∈ spec.extra.members, Kept keys (room - 1) member) ∧ spec.Canonical := by
  have drafted : ∃ draft : Draft, ((∀ member ∈ draft.extra, Kept keys (room - 1) member) ∧
      ∀ read ∈ draft.phase, ∃ token, read = Phase.ofToken token) ∧
      Except.ok draft.finish = (.ok spec : Except Mismatch JobSpec) := by
    refine Shape.ofTree_eq_ok (motive := fun draft : Draft =>
        (∀ member ∈ draft.extra, Kept keys (room - 1) member) ∧
          ∀ read ∈ draft.phase, ∃ token, read = Phase.ofToken token)
      (fun field named draft tree next start filled => ?_) (fun keep kept => ?_)
      (by simp) read
    · obtain rfl := List.mem_singleton.1 named
      obtain ⟨phase, given, same⟩ := map_eq_ok_iff.1 filled
      obtain ⟨token, -, named⟩ := map_eq_ok_iff.1 given
      subst same
      refine ⟨start.1, fun read there => ⟨token, ?_⟩⟩
      rw [named]
      exact (Option.some.inj there).symm
    · obtain rfl := Option.some.inj kept
      intro draft name value tree given start other
      refine ⟨forall_kept_concat start.1 ?_ given, start.2⟩
      simpa [shape, keys, Field.of, eq_comm] using other
  obtain ⟨draft, ⟨kept, tokens⟩, finished⟩ := drafted
  obtain rfl := Except.ok.inj finished
  obtain ⟨token, same⟩ := getD_phase tokens
  unfold Draft.finish
  rw [same]
  exact ⟨fun member found => kept member (Json.mem_of_mem_sortMembers found),
    canonical_of_ofToken token _⟩

end JobSpec

namespace Kind

/-- The phase of a specification that has one comes back as it was. -/
def SpecCanonical : (kind : Kind) → kind.Spec → Prop
  | .checkState, _ => True
  | .checkJob, spec => JobSpec.Canonical spec

/-- A specification that was read from a value is framed, and its phase comes back. -/
theorem framed_of_ofValue {kind : Kind} {value : Value} {spec : kind.Spec}
    (read : kind.specDecoder.ofValue value = .ok spec) :
    kind.SpecFramed spec ∧ kind.SpecCanonical spec := by
  cases kind with
  | checkState => exact ⟨trivial, trivial⟩
  | checkJob => exact JobSpec.framed_of_ofValue read

/-- The members that a specification keeps, if it has any, were read. -/
def SpecKeeps (room : Nat) : (kind : Kind) → kind.Spec → Prop
  | .checkState, _ => True
  | .checkJob, spec => ∀ member ∈ (JobSpec.extra spec).members, Kept JobSpec.keys room member

/-- A specification that was read from a text keeps members that were read, and its phase comes
back. -/
theorem keeps_of_ofTree {kind : Kind} {room : Nat} {tree : Tree} {spec : kind.Spec}
    (read : kind.specDecoder.ofTree room tree = .ok spec) :
    kind.SpecKeeps (room - 1) spec ∧ kind.SpecCanonical spec := by
  cases kind with
  | checkState => exact ⟨trivial, trivial⟩
  | checkJob => exact JobSpec.keeps_of_ofTree read

end Kind

namespace Resource

variable {kind : Kind}

/-- The document is what a decoder made of some value or of some text. -/
def Decoded (document : Resource kind) : Prop :=
  (∃ value, (decoder kind).decodeValue value = .ok document) ∨
    ∃ bytes, (decoder kind).decodeText bytes = .ok document

/-- A document is read from an object if its metadata and its specification are; all other members
are kept. -/
theorem ofValue_eq_ok_iff {value : Value} {document : Resource kind} :
    (decoder kind).ofValue value = .ok document ↔
      ∃ members, value = .object members ∧ ∃ metadata spec,
        Metadata.decoder.member "metadata" members = .ok (some metadata) ∧
        kind.specDecoder.member "spec" members = .ok (some spec) ∧
        ⟨metadata, spec, .ofMembers (members.filter (·.1 ∉ keys))⟩ = document := by
  constructor
  · intro read
    cases value with
    | object members =>
      obtain ⟨metadata, givenMetadata, readSpec⟩ :=
        bind_eq_ok_iff.1 (show ofMembers kind members = .ok document from read)
      obtain ⟨spec, givenSpec, last⟩ := bind_eq_ok_iff.1 readSpec
      cases metadata with
      | none => contradiction
      | some metadata =>
        cases spec with
        | none => contradiction
        | some spec =>
          exact ⟨members, rfl, metadata, spec, givenMetadata, givenSpec, Except.ok.inj last⟩
    | null | bool | number | string | array => contradiction
  · rintro ⟨members, rfl, metadata, spec, givenMetadata, givenSpec, rfl⟩
    change ofMembers kind members = _
    rw [ofMembers, givenMetadata, givenSpec]
    rfl

/-- A document that was read from a value is framed, and its phase comes back. -/
theorem framed_of_ofValue {value : Value} {document : Resource kind}
    (read : (decoder kind).ofValue value = .ok document) :
    document.Framed ∧ kind.SpecCanonical document.spec := by
  obtain ⟨members, -, metadata, spec, givenMetadata, givenSpec, rfl⟩ := ofValue_eq_ok_iff.1 read
  obtain ⟨_, -, readMetadata⟩ := Decoder.member_eq_ok givenMetadata
  obtain ⟨_, -, readSpec⟩ := Decoder.member_eq_ok givenSpec
  have metadataFramed := Metadata.framed_of_ofValue readMetadata
  have specFramed := Kind.framed_of_ofValue readSpec
  exact ⟨⟨metadataFramed, specFramed.1, Object.ofMembers_avoids forall_mem_filter⟩, specFramed.2⟩

/-- The members that a document keeps were read, and its phase comes back. -/
structure Keeps (room : Nat) (document : Resource kind) : Prop where
  /-- The kept members of the metadata were read. -/
  metadata : ∀ member ∈ document.metadata.extra.members, Kept Metadata.keys (room - 1) member
  /-- The kept members of the specification were read. -/
  spec : kind.SpecKeeps (room - 1) document.spec
  /-- The other members were read. -/
  extra : ∀ member ∈ document.extra.members, Kept keys room member
  /-- The phase comes back. -/
  canonical : kind.SpecCanonical document.spec

/-- What a draft of a document must be for the members that the document keeps to be read. -/
private structure Draft.Keeps (room : Nat) (draft : Draft kind) : Prop where
  /-- The kept members of the metadata were read. -/
  metadata : ∀ read ∈ draft.metadata,
    ∀ member ∈ (Metadata.extra read).members, Kept Metadata.keys (room - 1) member
  /-- The kept members of the specification were read, and its phase comes back. -/
  spec : ∀ read ∈ draft.spec, kind.SpecKeeps (room - 1) read ∧ kind.SpecCanonical read
  /-- The other members were read. -/
  extra : ∀ member ∈ draft.extra, Kept keys room member

/-- A document that was read from a text keeps members that were read. -/
theorem keeps_of_ofTree {room : Nat} {tree : Tree} {document : Resource kind}
    (read : (decoder kind).ofTree room tree = .ok document) : document.Keeps (room - 1) := by
  have drafted : ∃ draft : Draft kind, draft.Keeps (room - 1) ∧ draft.finish = .ok document := by
    refine Shape.ofTree_eq_ok (motive := Draft.Keeps (room - 1))
      (fun field named draft tree next start filled => ?_) (fun keep kept => ?_)
      ⟨by simp, by simp, by simp⟩ read
    · simp only [shape, List.mem_cons, List.not_mem_nil, or_false] at named
      rcases named with rfl | rfl
      · obtain ⟨metadata, given, rfl⟩ := map_eq_ok_iff.1 filled
        refine ⟨fun read there => ?_, start.spec, start.extra⟩
        obtain rfl := Option.some.inj there
        exact Metadata.keeps_of_ofTree given
      · obtain ⟨spec, given, rfl⟩ := map_eq_ok_iff.1 filled
        refine ⟨start.metadata, fun read there => ?_, start.extra⟩
        obtain rfl := Option.some.inj there
        exact Kind.keeps_of_ofTree given
    · obtain rfl := Option.some.inj kept
      intro draft name value tree given start other
      refine ⟨start.metadata, start.spec, forall_kept_concat start.extra ?_ given⟩
      simpa [shape, keys, Field.of, eq_comm] using other
  obtain ⟨draft, keeps, finished⟩ := drafted
  unfold Draft.finish at finished
  split at finished
  · contradiction
  · contradiction
  · next metadata spec givenMetadata givenSpec =>
    obtain rfl := Except.ok.inj finished
    have specKeeps := keeps.spec spec givenSpec
    exact ⟨keeps.metadata metadata givenMetadata, specKeeps.1,
      fun member found => keeps.extra member (Json.mem_of_mem_sortMembers found), specKeeps.2⟩

/-- A document that keeps members that were read is framed. -/
theorem Keeps.framed {room : Nat} {document : Resource kind} (keeps : document.Keeps room) :
    document.Framed := by
  refine ⟨fun member found => (keeps.metadata member found).other, ?_,
    fun member found => (keeps.extra member found).other⟩
  cases kind with
  | checkState => trivial
  | checkJob => exact fun member found => (keeps.spec member found).other

/-- A document that was decoded from a text keeps members that were read with the room that its
text has. -/
theorem keeps_of_decodeText {bytes : List UInt8} {document : Resource kind}
    (read : (decoder kind).decodeText bytes = .ok document) :
    document.Keeps (Json.nestingLimit - 1) := by
  obtain ⟨read, tree, rest⟩ := bind_eq_ok_iff.1 (mapError_eq_ok_iff.1 read)
  obtain ⟨_, -, same⟩ := bind_eq_ok_iff.1 rest
  obtain rfl := Except.ok.inj same
  exact keeps_of_ofTree tree

/-- A document that was decoded is framed, and its phase comes back. -/
theorem Decoded.framed {document : Resource kind} (decoded : document.Decoded) :
    document.Framed ∧ kind.SpecCanonical document.spec := by
  rcases decoded with ⟨value, read⟩ | ⟨bytes, read⟩
  · exact framed_of_ofValue (mapError_eq_ok_iff.1 read)
  · have keeps := keeps_of_decodeText read
    exact ⟨keeps.framed, keeps.canonical⟩

end Resource

end Document

end HealthLedger
