import HealthLedger.Proofs.Document.Part

/-!
# The values that are documents

A part of a document has a grammar: what must stand under some keys of its value and what may stand
under others (`Part.Grammar`). Its decoder reads exactly the values of this grammar
(`Part.decodes_iff_grammatical`). A decoder accepts some values if these are the ones that it reads;
every combinator says what it accepts in terms of what its parts accept, and a record accepts what
its members accept, one after the other. Details that are an array are read as the object that has
the items under the keys of the fields.
-/

namespace HealthLedger

namespace Json

namespace Value

/-- The value is an object. -/
def IsObject (value : Value) : Prop := ∃ members, value = .object members

/-- Something stands under the key, and it is allowed. -/
def Has (value : Value) (key : String) (allowed : Value → Prop) : Prop :=
  ∃ member, value.member? key = some member ∧ allowed member

/-- If something stands under the key, it is allowed. -/
def MayHave (value : Value) (key : String) (allowed : Value → Prop) : Prop :=
  ∀ member, value.member? key = some member → allowed member

/-- Only an object has something under a key. -/
theorem Has.isObject {value : Value} {key : String} {allowed : Value → Prop}
    (has : value.Has key allowed) : value.IsObject := by
  obtain ⟨member, found, -⟩ := has
  cases value with
  | object members => exact ⟨members, rfl⟩
  | null | bool | number | string | array => contradiction

end Value

/-- Under a key that was put before some values stands the value of the same place. -/
theorem findMember_zip {keys : List String} (nodup : keys.Nodup) {number : Nat} {key : String}
    (here : keys[number]? = some key) (values : List Value) :
    findMember key (keys.zip values) = values[number]? := by
  induction keys generalizing number values with
  | nil => contradiction
  | cons first rest ih =>
    obtain ⟨absent, others⟩ := List.nodup_cons.1 nodup
    cases values with
    | nil => rfl
    | cons value values =>
      cases number with
      | zero =>
        obtain rfl := Option.some.inj here
        simp [findMember]
      | succ number =>
        have inside : rest[number]? = some key := here
        have other : first ≠ key := fun same => absent (same ▸ List.mem_of_getElem? inside)
        rw [List.zip_cons_cons, findMember, if_neg other, ih others inside]
        rfl

end Json

namespace Document

open Json (Value Members findMember)

/-- The value is a truth value. -/
def IsTruth (value : Value) : Prop := ∃ truth, value = .bool truth

/-- The value is a string. -/
def IsString (value : Value) : Prop := ∃ text, value = .string text

/-- The value is an array of strings. -/
def IsStrings (value : Value) : Prop := ∃ texts : List String, value = .array (texts.map .string)

/-- The value is a string that is read as an instant. -/
def IsInstant (value : Value) : Prop :=
  ∃ instant text, value = .string text ∧ Time.Instant.parse text = .ok instant

/-- The value is null or allowed. -/
def OrNull (allowed : Value → Prop) (value : Value) : Prop := value = .null ∨ allowed value

/-- The names of workloads, with those of an older format. -/
def Workload.names : List String := ["check", "job", "KuberhealthyCheck", "KuberhealthyJob"]

/-- The value is the name of a workload, or an object with the name as its only key and null as its
value. -/
def IsWorkload (value : Value) : Prop :=
  ∃ name ∈ Workload.names, value = .string name ∨ value = .object [(name, .null)]

namespace Decoder

/-- A truth value is read as it is. -/
theorem bool_eq_ok_iff {value : Value} {truth : Bool} :
    bool.ofValue value = .ok truth ↔ value = .bool truth := by
  cases value <;> simp [bool, wrongValue]

/-- A string is read as it is. -/
theorem string_eq_ok_iff {value : Value} {text : String} :
    string.ofValue value = .ok text ↔ value = .string text := by
  cases value <;> simp [string, stringWith, wrongValue]

/-- An instant is read from a text of it. -/
theorem instant_eq_ok_iff {value : Value} {instant : Time.Instant} :
    Decoder.instant.ofValue value = .ok instant ↔
      ∃ text, value = .string text ∧ Time.Instant.parse text = .ok instant := by
  cases value <;> simp [Decoder.instant, stringWith, wrongValue, mapError_eq_ok_iff]

/-- Null is read as nothing, and all else as the decoder of something reads it. -/
theorem optional_eq_ok_iff {α : Type} {decoder : Decoder α} {value : Value} {result : Option α} :
    decoder.optional.ofValue value = .ok result ↔
      (value = .null ∧ result = none) ∨
        value ≠ .null ∧ ∃ content, decoder.ofValue value = .ok content ∧ some content = result := by
  have something (other : Value) :
      some <$> decoder.ofValue other = .ok result ↔
        ∃ content, decoder.ofValue other = .ok content ∧ some content = result := map_eq_ok_iff
  cases value with
  | null => simp [eq_comm]
  | bool | number | string | array | object => simpa [optional] using something _

/-- An array of strings is read as its strings. -/
theorem strings_eq_ok_iff {value : Value} {texts : List String} :
    string.list.ofValue value = .ok texts ↔ value = .array (texts.map .string) := by
  constructor
  · intro read
    cases value with
    | array items =>
      change items.mapM string.ofValue = .ok texts at read
      refine congrArg Value.array ?_
      induction items generalizing texts with
      | nil =>
        obtain rfl := Except.ok.inj read
        rfl
      | cons item rest ih =>
        rw [List.mapM_cons] at read
        obtain ⟨text, first, readRest⟩ := bind_eq_ok_iff.1 read
        obtain ⟨others, given, same⟩ := bind_eq_ok_iff.1 readRest
        obtain rfl := Except.ok.inj same
        rw [List.map_cons, ← ih given, string_eq_ok_iff.1 first]
    | null | bool | number | string | object => contradiction
  · rintro rfl
    exact ofValue_strings texts

/-- A choice is read from its name or from an object with its name. -/
theorem choice_eq_ok_iff {α : Type} {choices : List (String × α)} {known : List String}
    {value : Value} {chosen : α} :
    (choice choices known).ofValue value = .ok chosen ↔
      ∃ name, choices.lookup name = some chosen ∧
        (value = .string name ∨ value = .object [(name, .null)]) := by
  have named (name : String) :
      choose choices known name = .ok chosen ↔ choices.lookup name = some chosen := by
    unfold choose
    split <;> simp [*]
  cases value with
  | string name =>
    change choose choices known name = _ ↔ _
    simp [named]
  | object members =>
    match members with
    | [(name, held)] =>
      change (choose choices known name >>= fun choice =>
        unit.ofValue held >>= fun _ => .ok choice) = _ ↔ _
      cases held with
      | null => simp [bind_eq_ok_iff, named, unit]
      | bool | number | string | array | object => simp [bind_eq_ok_iff, unit, wrongValue]
    | [] | _ :: _ :: _ => simp [choice]
  | null | bool | number | array => simp [choice, wrongValue]

/-- The values that the decoder reads are the ones that are allowed. -/
def Accepts {α : Type} (decoder : Decoder α) (allowed : Value → Prop) : Prop :=
  ∀ value, (∃ content, decoder.ofValue value = .ok content) ↔ allowed value

/-- Truth values are read. -/
theorem bool_accepts : bool.Accepts IsTruth := by
  intro value
  simp only [bool_eq_ok_iff, IsTruth]

/-- Strings are read. -/
theorem string_accepts : string.Accepts IsString := by
  intro value
  simp only [string_eq_ok_iff, IsString]

/-- Arrays of strings are read. -/
theorem strings_accepts : string.list.Accepts IsStrings := by
  intro value
  simp only [strings_eq_ok_iff, IsStrings]

/-- Texts of instants are read. -/
theorem instant_accepts : Decoder.instant.Accepts IsInstant := by
  intro value
  simp only [instant_eq_ok_iff, IsInstant]

/-- A workload has a name if the name is one of those. -/
theorem workload_named_iff (name : String) :
    (∃ workload, Workload.choices.lookup name = some workload) ↔ name ∈ Workload.names := by
  rw [← Option.isSome_iff_exists, List.lookup_isSome_iff]
  simp only [Workload.choices, Workload.names, List.mem_cons, List.not_mem_nil, or_false,
    exists_eq_or_imp, exists_eq_left, beq_iff_eq]
  grind

/-- The names of workloads are read, alone or as a key. -/
theorem workload_accepts : Workload.decoder.Accepts IsWorkload := by
  intro value
  simp only [Workload.decoder, choice_eq_ok_iff, IsWorkload, ← workload_named_iff]
  rw [exists_comm]
  simp only [exists_and_right]

/-- Null is read beside what a decoder reads. -/
theorem Accepts.optional {α : Type} {decoder : Decoder α} {allowed : Value → Prop}
    (accepts : decoder.Accepts allowed) : decoder.optional.Accepts (OrNull allowed) := by
  intro value
  simp only [optional_eq_ok_iff, OrNull, ← accepts value]
  constructor
  · rintro ⟨_, ⟨null, -⟩ | ⟨-, content, read, -⟩⟩
    · exact .inl null
    · exact .inr ⟨content, read⟩
  · rintro (null | ⟨content, read⟩)
    · exact ⟨none, .inl ⟨null, rfl⟩⟩
    · by_cases null : value = .null
      · exact ⟨none, .inl ⟨null, rfl⟩⟩
      · exact ⟨some content, .inr ⟨null, content, read, rfl⟩⟩

/-- A decoder of what another decoder's results stand for reads what this one reads. -/
theorem Accepts.map {α β : Type} {decoder : Decoder α} {allowed : Value → Prop}
    (accepts : decoder.Accepts allowed) (f : α → β) : (decoder.map f).Accepts allowed := by
  intro value
  rw [← accepts value]
  constructor
  · rintro ⟨_, read⟩
    obtain ⟨content, given, -⟩ := map_eq_ok_iff.1 read
    exact ⟨content, given⟩
  · rintro ⟨content, given⟩
    exact ⟨f content, map_eq_ok_iff.2 ⟨content, given, rfl⟩⟩

variable {α : Type} {decoder : Decoder α} {allowed : Value → Prop} {key : String}
  {members : Members}

/-- The value of a key is read if it is allowed or there is none. -/
theorem Accepts.member (accepts : decoder.Accepts allowed) :
    (∃ result, decoder.member key members = .ok result) ↔
      (Value.object members).MayHave key allowed := by
  constructor
  · rintro ⟨result, read⟩ value there
    have found : findMember key members = some value := there
    simp only [Decoder.member, found] at read
    obtain ⟨content, given, -⟩ := map_eq_ok_iff.1 read
    exact (accepts value).1 ⟨content, given⟩
  · intro may
    unfold Decoder.member
    split
    · exact ⟨none, rfl⟩
    · next value found =>
      obtain ⟨content, given⟩ := (accepts value).2 (may value found)
      exact ⟨some content, map_eq_ok_iff.2 ⟨content, given, rfl⟩⟩

/-- Something is read for a key if it is there and allowed. -/
theorem Accepts.member_some (accepts : decoder.Accepts allowed) :
    (∃ content, decoder.member key members = .ok (some content)) ↔
      (Value.object members).Has key allowed := by
  constructor
  · rintro ⟨content, read⟩
    obtain ⟨value, found, given⟩ := member_eq_ok read
    exact ⟨value, found, (accepts value).1 ⟨content, given⟩⟩
  · rintro ⟨value, there, permitted⟩
    have found : findMember key members = some value := there
    obtain ⟨content, given⟩ := (accepts value).2 permitted
    refine ⟨content, ?_⟩
    simp only [Decoder.member, found]
    exact map_eq_ok_iff.2 ⟨content, given, rfl⟩

end Decoder

namespace Metadata

/-- The values of metadata. -/
structure Grammar (value : Value) : Prop where
  /-- The name is a string. -/
  name : value.Has "name" IsString
  /-- The namespace is a string, if there is one. -/
  space : value.MayHave "namespace" IsString
  /-- The version is null or a string, if there is one. -/
  version : value.MayHave "resourceVersion" (OrNull IsString)
  /-- The identity is null or a string, if there is one. -/
  uid : value.MayHave "uid" (OrNull IsString)

/-- The values of metadata are read. -/
theorem accepts : decoder.Accepts Grammar := by
  intro value
  constructor
  · rintro ⟨metadata, read⟩
    obtain ⟨members, rfl, name, space, version, uid, givenName, givenSpace, givenVersion, givenUid,
      -⟩ := ofValue_eq_ok_iff.1 read
    exact ⟨Decoder.string_accepts.member_some.1 ⟨name, givenName⟩,
      Decoder.string_accepts.member.1 ⟨space, givenSpace⟩,
      Decoder.string_accepts.optional.member.1 ⟨version, givenVersion⟩,
      Decoder.string_accepts.optional.member.1 ⟨uid, givenUid⟩⟩
  · intro grammar
    obtain ⟨members, rfl⟩ := grammar.name.isObject
    obtain ⟨name, givenName⟩ := Decoder.string_accepts.member_some.2 grammar.name
    obtain ⟨space, givenSpace⟩ := Decoder.string_accepts.member.2 grammar.space
    obtain ⟨version, givenVersion⟩ := Decoder.string_accepts.optional.member.2 grammar.version
    obtain ⟨uid, givenUid⟩ := Decoder.string_accepts.optional.member.2 grammar.uid
    exact ⟨_, ofValue_eq_ok_iff.2 ⟨members, rfl, name, space, version, uid, givenName, givenSpace,
      givenVersion, givenUid, rfl⟩⟩

end Metadata

namespace JobSpec

/-- The values of specifications of jobs. -/
structure Grammar (value : Value) : Prop where
  /-- The value is an object. -/
  object : value.IsObject
  /-- The phase is a string, if there is one. -/
  phase : value.MayHave "phase" IsString

/-- The values of specifications of jobs are read. -/
theorem accepts : decoder.Accepts Grammar := by
  have token : Phase.decoder.Accepts IsString := Decoder.string_accepts.map Phase.ofToken
  intro value
  constructor
  · rintro ⟨spec, read⟩
    obtain ⟨members, rfl, phase, given, -⟩ := ofValue_eq_ok_iff.1 read
    exact ⟨⟨members, rfl⟩, token.member.1 ⟨phase, given⟩⟩
  · intro grammar
    obtain ⟨members, rfl⟩ := grammar.object
    obtain ⟨phase, given⟩ := token.member.2 grammar.phase
    exact ⟨_, ofValue_eq_ok_iff.2 ⟨members, rfl, phase, given, rfl⟩⟩

end JobSpec

namespace Details

/-- The fields in their order, with what may stand there. -/
def slots : List (String × (Value → Prop)) :=
  [("ok", IsTruth), ("errors", IsStrings), ("runDuration", IsString), ("namespace", IsString),
   ("lastRun", OrNull IsInstant), ("authoritativePod", IsString), ("currentUUID", IsString),
   ("workload", IsWorkload)]

/-- The keys of the fields in their order. -/
def keys : List String := slots.map (·.1)

/-- What stands under the keys of the fields, if anything does, may stand there. -/
def Fills (value : Value) : Prop := ∀ slot ∈ slots, value.MayHave slot.1 slot.2

/-- The values of details: an object, or an array of at most as many items as there are fields,
which are those of the fields in their order. -/
def Grammar (value : Value) : Prop :=
  (value.IsObject ∧ Fills value) ∨
    ∃ items, value = .array items ∧ items.length ≤ keys.length ∧ Fills (.object (keys.zip items))

/-- The item of a number is read as the value of the key of this number. -/
theorem nth_eq_member {α : Type} (decoder : Decoder α) {number : Nat} {key : String}
    (here : keys[number]? = some key) (items : List Value) :
    nth decoder number items = decoder.member key (keys.zip items) := by
  have found := Json.findMember_zip (show keys.Nodup by decide) here items
  rw [Decoder.member, found, nth, ← List.head?_drop]
  cases items.drop number <;> rfl

/-- A draft is what is read from items if it is what is read from the items under the keys of the
fields. -/
theorem readsItems_iff {items : List Value} {draft : Draft} :
    draft.ReadsItems items ↔ draft.Reads (keys.zip items) := by
  constructor
  · rintro ⟨ok, errors, duration, space, lastRun, pod, uuid, workload⟩
    rw [nth_eq_member _ rfl] at ok errors duration space lastRun pod uuid workload
    exact ⟨ok, errors, duration, space, lastRun, pod, uuid, workload⟩
  · rintro ⟨ok, errors, duration, space, lastRun, pod, uuid, workload⟩
    constructor <;> rw [nth_eq_member _ rfl] <;> assumption

/-- Details are read from items if there are no more of them than fields, and if they are read from
the items under the keys of the fields. -/
theorem ofItems_eq_ok_iff_ofMembers {items : List Value} {details : Details} :
    ofItems items = .ok details ↔
      items.length ≤ keys.length ∧ ofMembers (keys.zip items) = .ok details := by
  simp only [ofItems_eq_ok_iff, ofMembers_eq_ok_iff, readsItems_iff]
  rfl

/-- Members are read if they may stand where they do. -/
theorem ofMembers_accepts {members : Members} :
    (∃ details, ofMembers members = .ok details) ↔ Fills (.object members) := by
  simp only [ofMembers_eq_ok_iff, Fills, slots, List.forall_mem_cons, List.not_mem_nil,
    false_implies, implies_true, and_true]
  constructor
  · rintro ⟨_, draft, reads, -⟩
    exact ⟨Decoder.bool_accepts.member.1 ⟨_, reads.ok⟩,
      Decoder.strings_accepts.member.1 ⟨_, reads.errors⟩,
      Decoder.string_accepts.member.1 ⟨_, reads.runDuration⟩,
      Decoder.string_accepts.member.1 ⟨_, reads.space⟩,
      Decoder.instant_accepts.optional.member.1 ⟨_, reads.lastRun⟩,
      Decoder.string_accepts.member.1 ⟨_, reads.authoritativePod⟩,
      Decoder.string_accepts.member.1 ⟨_, reads.currentUuid⟩,
      Decoder.workload_accepts.member.1 ⟨_, reads.workload⟩⟩
  · rintro ⟨mayOk, mayErrors, mayDuration, maySpace, mayLastRun, mayPod, mayUuid, mayWorkload⟩
    obtain ⟨ok, givenOk⟩ := Decoder.bool_accepts.member.2 mayOk
    obtain ⟨errors, givenErrors⟩ := Decoder.strings_accepts.member.2 mayErrors
    obtain ⟨duration, givenDuration⟩ := Decoder.string_accepts.member.2 mayDuration
    obtain ⟨space, givenSpace⟩ := Decoder.string_accepts.member.2 maySpace
    obtain ⟨lastRun, givenLastRun⟩ := Decoder.instant_accepts.optional.member.2 mayLastRun
    obtain ⟨pod, givenPod⟩ := Decoder.string_accepts.member.2 mayPod
    obtain ⟨uuid, givenUuid⟩ := Decoder.string_accepts.member.2 mayUuid
    obtain ⟨workload, givenWorkload⟩ := Decoder.workload_accepts.member.2 mayWorkload
    exact ⟨_, ⟨ok, errors, duration, space, lastRun, pod, uuid, workload⟩,
      ⟨givenOk, givenErrors, givenDuration, givenSpace, givenLastRun, givenPod, givenUuid,
        givenWorkload⟩, rfl⟩

/-- The values of details are read. -/
theorem accepts : decoder.Accepts Grammar := by
  intro value
  cases value with
  | object members =>
    change (∃ details, ofMembers members = .ok details) ↔ _
    rw [ofMembers_accepts]
    simp [Grammar, Value.IsObject]
  | array items =>
    change (∃ details, ofItems items = .ok details) ↔ _
    simp only [ofItems_eq_ok_iff_ofMembers, exists_and_left, ofMembers_accepts]
    simp [Grammar, Value.IsObject]
  | null | bool | number | string =>
    constructor
    · rintro ⟨_, read⟩
      contradiction
    · simp [Grammar, Value.IsObject]

end Details

/-- The values of specifications. -/
def Kind.SpecGrammar : Kind → Value → Prop
  | .checkState => Details.Grammar
  | .checkJob => JobSpec.Grammar

/-- The values of specifications are read. -/
theorem Kind.specDecoder_accepts (kind : Kind) : kind.specDecoder.Accepts kind.SpecGrammar := by
  cases kind with
  | checkState => exact Details.accepts
  | checkJob => exact JobSpec.accepts

namespace Resource

/-- The values of documents. -/
structure Grammar (kind : Kind) (value : Value) : Prop where
  /-- The metadata are there. -/
  metadata : value.Has "metadata" Metadata.Grammar
  /-- The specification is there. -/
  spec : value.Has "spec" kind.SpecGrammar

/-- The values of documents are read. -/
theorem accepts (kind : Kind) : (decoder kind).Accepts (Grammar kind) := by
  intro value
  constructor
  · rintro ⟨document, read⟩
    obtain ⟨members, rfl, metadata, spec, givenMetadata, givenSpec, -⟩ := ofValue_eq_ok_iff.1 read
    exact ⟨Metadata.accepts.member_some.1 ⟨metadata, givenMetadata⟩,
      kind.specDecoder_accepts.member_some.1 ⟨spec, givenSpec⟩⟩
  · intro grammar
    obtain ⟨members, rfl⟩ := grammar.metadata.isObject
    obtain ⟨metadata, givenMetadata⟩ := Metadata.accepts.member_some.2 grammar.metadata
    obtain ⟨spec, givenSpec⟩ := kind.specDecoder_accepts.member_some.2 grammar.spec
    exact ⟨_, ofValue_eq_ok_iff.2 ⟨members, rfl, metadata, spec, givenMetadata, givenSpec, rfl⟩⟩

end Resource

namespace Part

/-- The values of a part. -/
def Grammar : Part → Value → Prop
  | .metadata => Metadata.Grammar
  | .details => Details.Grammar
  | .workload => IsWorkload
  | .phase => IsString
  | .jobSpec => JobSpec.Grammar
  | .document kind => Resource.Grammar kind

/-- A value is decoded as a part of a document if and only if it is in the grammar of the part. -/
theorem decodes_iff_grammatical (part : Part) (value : Value) :
    (∃ content, part.decoder.decodeValue value = .ok content) ↔ part.Grammar value := by
  have accepts : part.decoder.Accepts part.Grammar := by
    cases part with
    | metadata => exact Metadata.accepts
    | details => exact Details.accepts
    | workload => exact Decoder.workload_accepts
    | phase => exact Decoder.string_accepts.map Phase.ofToken
    | jobSpec => exact JobSpec.accepts
    | document kind => exact Resource.accepts kind
  rw [← accepts value]
  exact exists_congr fun content => mapError_eq_ok_iff

end Part

end Document

end HealthLedger
