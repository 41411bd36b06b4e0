import HealthLedger.Proofs.Document.Part
import HealthLedger.Proofs.Document.Vocabulary

/-!
# What is read back as it was

A part is well-formed if none of its kept members has the key of a field of the object that it
stands in, and if its phase, if it is none of the known ones, does not have the token of one of
them. These are the parts that come back from their values (`Part.reads_back_iff_wellFormed`):
kept members with the key of a field would be written over the field, and a phase with the token of
a known one would be read as the known one. Whatever was decoded is well-formed. That the time of
the last run is read as it is written is taken for granted.
-/

namespace HealthLedger.Document

open Json (Value)

/-- The tokens of the known phases. -/
def Phase.tokens : List String := ["", "Running", "Completed", "Failed", "Suspended"]

/-- A phase that is none of the known ones does not have the token of one of them. -/
def Phase.Genuine : Phase → Prop
  | .other token => token ∉ Phase.tokens
  | _ => True

/-- The phases that come back from their tokens are the genuine ones. -/
theorem Phase.ofToken_token_iff (phase : Phase) : .ofToken phase.token = phase ↔ phase.Genuine := by
  cases phase with
  | unset | running | completed | failed | suspended => exact iff_of_true rfl trivial
  | other token =>
    change Phase.ofToken token = .other token ↔ token ∉ tokens
    constructor
    · intro same known
      simp only [tokens, List.mem_cons, List.not_mem_nil, or_false] at known
      rcases known with rfl | rfl | rfl | rfl | rfl
      all_goals exact absurd same (by decide)
    · intro unknown
      simp only [tokens, List.mem_cons, List.not_mem_nil, or_false, not_or] at unknown
      obtain ⟨notEmpty, notRunning, notCompleted, notFailed, notSuspended⟩ := unknown
      rw [Phase.ofToken, if_neg notEmpty, if_neg notRunning, if_neg notCompleted, if_neg notFailed,
        if_neg notSuspended]

/-- The phase of a token is genuine. -/
theorem Phase.genuine_ofToken (token : String) : (Phase.ofToken token).Genuine := by
  rw [← Phase.ofToken_token_iff, Phase.token_ofToken]

/-- A specification comes back as it was if its phase does. -/
theorem JobSpec.canonical_iff_genuine (spec : JobSpec) : spec.Canonical ↔ spec.phase.Genuine := by
  rw [← Phase.ofToken_token_iff]
  constructor
  · intro canonical
    exact congrArg JobSpec.phase canonical
  · intro same
    rw [Canonical, reread, same]

/-- The phase of a specification, if it has one, is genuine. -/
def Kind.SpecGenuine : (kind : Kind) → kind.Spec → Prop
  | .checkState, _ => True
  | .checkJob, spec => (JobSpec.phase spec).Genuine

/-- The time of the last run in a specification, if there is one, is read as it is written. -/
def Kind.SpecTimely : (kind : Kind) → kind.Spec → Prop
  | .checkState, spec => ∀ instant ∈ Details.lastRun spec, instant.Readable
  | .checkJob, _ => True

/-- A specification with a genuine phase and a time that is read as it is written comes back as it
was. -/
theorem Kind.reread_eq {kind : Kind} {spec : kind.Spec} (timely : kind.SpecTimely spec)
    (genuine : kind.SpecGenuine spec) : kind.reread spec = .ok spec := by
  have legible := Vocabulary.ofTokens_legible (fun _ readable => readable) kind
  refine SpecWithin.reread_eq legible ?_
  cases kind with
  | checkState => exact timely
  | checkJob => exact (Phase.ofToken_token_iff _).2 genuine

/-- The phase of a specification comes back as it was if it is genuine. -/
theorem Kind.specCanonical_iff_genuine {kind : Kind} {spec : kind.Spec} :
    kind.SpecCanonical spec ↔ kind.SpecGenuine spec := by
  cases kind with
  | checkState => exact Iff.rfl
  | checkJob => exact JobSpec.canonical_iff_genuine spec

namespace Part

/-- No kept member has the key of a field of its object, and a phase is genuine. -/
def WellFormed : (part : Part) → part.Content → Prop
  | .metadata, held => Metadata.Framed held
  | .details, _ => True
  | .workload, _ => True
  | .phase, held => Phase.Genuine held
  | .jobSpec, held => JobSpec.Framed held ∧ (JobSpec.phase held).Genuine
  | .document kind, held => Resource.Framed held ∧ kind.SpecGenuine (Resource.spec held)

/-- The time of the last run, if there is one, is read as it is written. -/
def Timely : (part : Part) → part.Content → Prop
  | .details, held => Kind.checkState.SpecTimely held
  | .document kind, held => kind.SpecTimely (Resource.spec held)
  | _, _ => True

/-- A part that is well-formed comes back from its value if its time does. -/
theorem WellFormed.ofValue_toValue {part : Part} {content : part.Content}
    (wellFormed : part.WellFormed content) (timely : part.Timely content) :
    part.decoder.ofValue (part.toValue content) = .ok content := by
  cases part with
  | metadata => exact Metadata.ofValue_members wellFormed
  | details =>
    have same : Kind.checkState.reread content = .ok content := Kind.reread_eq timely trivial
    exact (Details.ofValue_members content).trans same
  | workload => exact Workload.ofValue_toValue content
  | phase =>
    have same : Phase.ofToken (Phase.token content) = content :=
      (Phase.ofToken_token_iff content).2 wellFormed
    exact congrArg Except.ok same
  | jobSpec =>
    obtain ⟨framed, genuine⟩ := wellFormed
    have same : JobSpec.reread content = content :=
      (JobSpec.canonical_iff_genuine content).2 genuine
    exact (JobSpec.ofValue_members framed).trans (congrArg Except.ok same)
  | document kind =>
    obtain ⟨framed, genuine⟩ := wellFormed
    exact Resource.ofValue_toValue_eq framed (Kind.reread_eq timely genuine)

/-- A part that was read from a value is well-formed. -/
theorem wellFormed_of_ofValue {part : Part} {value : Value} {content : part.Content}
    (read : part.decoder.ofValue value = .ok content) : part.WellFormed content := by
  cases part with
  | metadata => exact Metadata.framed_of_ofValue read
  | details => trivial
  | workload => trivial
  | phase =>
    obtain ⟨token, -, same⟩ := map_eq_ok_iff.1 read
    exact same ▸ Phase.genuine_ofToken token
  | jobSpec =>
    obtain ⟨framed, canonical⟩ := JobSpec.framed_of_ofValue read
    exact ⟨framed, (JobSpec.canonical_iff_genuine content).1 canonical⟩
  | document kind =>
    obtain ⟨framed, canonical⟩ := Resource.framed_of_ofValue read
    exact ⟨framed, Kind.specCanonical_iff_genuine.1 canonical⟩

/-- A part that was read from the tree of a text is well-formed. -/
theorem wellFormed_of_ofTree {part : Part} {room : Nat} {tree : Json.Tree} {content : part.Content}
    (read : part.decoder.ofTree room tree = .ok content) : part.WellFormed content := by
  cases part with
  | metadata => exact fun member found => (Metadata.keeps_of_ofTree read member found).other
  | details => trivial
  | workload => trivial
  | phase =>
    obtain ⟨token, -, same⟩ := map_eq_ok_iff.1 read
    exact same ▸ Phase.genuine_ofToken token
  | jobSpec =>
    obtain ⟨kept, canonical⟩ := JobSpec.keeps_of_ofTree read
    exact ⟨fun member found => (kept member found).other,
      (JobSpec.canonical_iff_genuine content).1 canonical⟩
  | document kind =>
    have keeps := Resource.keeps_of_ofTree read
    exact ⟨keeps.framed, Kind.specCanonical_iff_genuine.1 keeps.canonical⟩

/-- A part comes back as it was from its value if and only if it is well-formed, provided that the
time of the last run is read as it is written; and every part that was decoded, be it from a value
or from a text, is well-formed. -/
theorem reads_back_iff_wellFormed (part : Part) (content : part.Content) :
    (part.Timely content →
      (part.decoder.decodeValue (part.toValue content) = .ok content ↔ part.WellFormed content)) ∧
    (∀ value, part.decoder.decodeValue value = .ok content → part.WellFormed content) ∧
    ∀ bytes, part.decoder.decodeText bytes = .ok content → part.WellFormed content := by
  have fromValue : ∀ value, part.decoder.decodeValue value = .ok content →
      part.WellFormed content :=
    fun value read => wellFormed_of_ofValue (mapError_eq_ok_iff.1 read)
  refine ⟨fun timely => ⟨fromValue _, fun wellFormed => ?_⟩, fromValue, fun bytes read => ?_⟩
  · exact mapError_eq_ok_iff.2 (wellFormed.ofValue_toValue timely)
  · obtain ⟨again, readTree, rest⟩ := bind_eq_ok_iff.1 (mapError_eq_ok_iff.1 read)
    obtain ⟨_, -, same⟩ := bind_eq_ok_iff.1 rest
    obtain rfl := Except.ok.inj same
    exact wellFormed_of_ofTree readTree

/-- A state that was written half a second after an hour, with members of others. -/
def timedState : CheckState :=
  ⟨⟨"api", "ops", some "7", none, .ofMembers [("labels", .ofMembers [("name", .string "b")])]⟩,
   { Details.new .job with lastRun := some ⟨20000, 3600, 500000000⟩ },
   .ofMembers [("status", .null)]⟩

/-- A job with a kept member where the phase is written. -/
def shadowedJob : CheckJob :=
  ⟨.new "nightly" "ops", ⟨.running, .ofMembers [("phase", .string "Failed")]⟩, .empty⟩

/-- The state comes back as it was, and the job does not. -/
theorem reads_back_timedState :
    Part.Timely (.document .checkState) timedState ∧ Part.Timely (.document .checkJob) shadowedJob ∧
      (Resource.decoder .checkState).decodeValue timedState.toValue = .ok timedState ∧
      (Resource.decoder .checkJob).decodeValue shadowedJob.toValue ≠ .ok shadowedJob := by
  have timely : Part.Timely (.document .checkState) timedState := by
    intro instant there
    obtain rfl := Option.some.inj there
    show Time.Instant.parse (Time.Instant.text ⟨20000, 3600, 500000000⟩) = .ok _
    rfl
  have wellFormed : Part.WellFormed (.document .checkState) timedState := by
    refine ⟨⟨?_, trivial, ?_⟩, trivial⟩
    · show ∀ member ∈ timedState.metadata.extra.members, member.1 ∉ Metadata.keys
      decide
    · show ∀ member ∈ timedState.extra.members, member.1 ∉ Resource.keys
      decide
  refine ⟨timely, trivial, ?_, fun back => ?_⟩
  · exact ((reads_back_iff_wellFormed (.document .checkState) timedState).1 timely).2 wellFormed
  · obtain ⟨framed, -⟩ :=
      ((reads_back_iff_wellFormed (.document .checkJob) shadowedJob).1 trivial).1 back
    have avoids : ("phase", Value.string "Failed").1 ∉ JobSpec.keys :=
      framed.spec _ List.mem_cons_self
    exact avoids (by decide)

end Part

end HealthLedger.Document
