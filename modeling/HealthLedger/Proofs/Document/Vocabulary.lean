import HealthLedger.Proofs.Document.Decoded

/-!
# What documents speak of

Two parts of a document have a text of their own: an instant and a phase. A vocabulary names
the instants and phases that may occur, and a document is sound for it if it is framed and
speaks of nothing else. A vocabulary is stable if reading back leads to nothing outside of it,
and legible for a kind if what documents of this kind speak of comes back as it was: then so
does a sound document (`Resource.Sound.ofValue_toValue`).
-/

namespace HealthLedger.Time

/-- The reader makes of the text of the instant what was written. -/
def Instant.Readable (instant : Instant) : Prop := Instant.parse instant.text = .ok instant

end HealthLedger.Time

namespace HealthLedger.Document

/-- The instants and the phases that documents may speak of. -/
structure Vocabulary where
  /-- The instants. -/
  instants : Time.Instant → Prop
  /-- The phases. -/
  phases : Phase → Prop

namespace Vocabulary

/-- The vocabulary of everything. -/
def all : Vocabulary := ⟨fun _ => True, fun _ => True⟩

/-- The vocabulary of some instants and all phases. -/
def ofInstants (instants : Time.Instant → Prop) : Vocabulary := ⟨instants, fun _ => True⟩

/-- The vocabulary of some instants and the phases that tokens stand for. -/
def ofTokens (instants : Time.Instant → Prop) : Vocabulary :=
  ⟨instants, fun phase => .ofToken phase.token = phase⟩

/-- What the texts of a vocabulary mean belongs to it. -/
structure Stable (vocabulary : Vocabulary) : Prop where
  /-- The instant of a text is one of the instants. -/
  instants : ∀ instant meant, vocabulary.instants instant →
    Time.Instant.parse instant.text = .ok meant → vocabulary.instants meant
  /-- The phase of a token is one of the phases. -/
  phases : ∀ phase, vocabulary.phases phase → vocabulary.phases (.ofToken phase.token)

/-- What documents of a kind speak of comes back as it was. -/
def Legible (vocabulary : Vocabulary) : Kind → Prop
  | .checkState => ∀ instant, vocabulary.instants instant → instant.Readable
  | .checkJob => ∀ phase, vocabulary.phases phase → .ofToken phase.token = phase

/-- The vocabulary of everything is stable. -/
theorem all_stable : all.Stable := ⟨fun _ _ _ _ => trivial, fun _ _ => trivial⟩

/-- A vocabulary of readable instants is stable. -/
theorem ofInstants_stable {instants : Time.Instant → Prop}
    (readable : ∀ instant, instants instant → instant.Readable) :
    (ofInstants instants).Stable := by
  refine ⟨fun instant meant spoken read => ?_, fun _ _ => trivial⟩
  obtain rfl := Except.ok.inj ((readable instant spoken).symm.trans read)
  exact spoken

/-- A vocabulary of readable instants and phases of tokens is legible. -/
theorem ofTokens_legible {instants : Time.Instant → Prop}
    (readable : ∀ instant, instants instant → instant.Readable) (kind : Kind) :
    (ofTokens instants).Legible kind := by
  cases kind with
  | checkState => exact readable
  | checkJob => exact fun phase spoken => spoken

end Vocabulary

/-- A specification speaks of nothing outside of a vocabulary. -/
def Kind.SpecWithin (vocabulary : Vocabulary) : (kind : Kind) → kind.Spec → Prop
  | .checkState, spec => ∀ instant ∈ Details.lastRun spec, vocabulary.instants instant
  | .checkJob, spec => vocabulary.phases (JobSpec.phase spec)

/-- Reading back stays within a stable vocabulary. -/
theorem Kind.SpecWithin.reread {vocabulary : Vocabulary} (stable : vocabulary.Stable)
    {kind : Kind} {spec read : kind.Spec} (within : kind.SpecWithin vocabulary spec)
    (result : kind.reread spec = .ok read) : kind.SpecWithin vocabulary read := by
  cases kind with
  | checkJob =>
    obtain rfl := Except.ok.inj result
    exact stable.phases _ within
  | checkState =>
    rcases Details.reread_eq_ok result with
      ⟨-, rfl⟩ | ⟨instant, meant, written, parsed, rfl⟩
    · exact within
    · intro other there
      obtain rfl := Option.some.inj there
      exact stable.instants instant _ (within instant written) parsed

/-- What a legible vocabulary can say comes back as it was. -/
theorem Kind.SpecWithin.reread_eq {vocabulary : Vocabulary} {kind : Kind} {spec : kind.Spec}
    (legible : vocabulary.Legible kind) (within : kind.SpecWithin vocabulary spec) :
    kind.reread spec = .ok spec := by
  cases kind with
  | checkJob =>
    have same : Phase.ofToken (JobSpec.phase spec).token = JobSpec.phase spec :=
      legible _ within
    change Except.ok (JobSpec.reread spec) = _
    rw [JobSpec.reread, same]
  | checkState =>
    change Details.reread spec = _
    unfold Details.reread
    cases written : Details.lastRun spec with
    | none => rfl
    | some instant =>
      have readable : Time.Instant.parse instant.text = .ok instant :=
        legible instant (within instant written)
      simp only [readable, mapError_ok, bind, Except.bind, ← written]

namespace Resource

variable {kind : Kind} {vocabulary : Vocabulary}

/-- A document speaks of nothing outside of a vocabulary. -/
def Within (vocabulary : Vocabulary) (document : Resource kind) : Prop :=
  kind.SpecWithin vocabulary document.spec

/-- A document is framed and stays within a vocabulary. -/
structure Sound (vocabulary : Vocabulary) (document : Resource kind) : Prop where
  /-- No kept member has the key of a field. -/
  framed : document.Framed
  /-- Nothing outside of the vocabulary is spoken of. -/
  within : document.Within vocabulary

/-- A decoded document within a vocabulary is sound. -/
theorem Decoded.sound {document : Resource kind} (decoded : document.Decoded)
    (within : document.Within vocabulary) : document.Sound vocabulary :=
  ⟨decoded.framed.1, within⟩

/-- Whatever was decoded stays within the vocabulary of everything. -/
theorem within_all (document : Resource kind) : document.Within .all := by
  cases kind with
  | checkState => exact fun _ _ => trivial
  | checkJob => trivial

/-- A decoded document within some instants speaks of these and of phases of tokens. -/
theorem Decoded.sound_ofTokens {instants : Time.Instant → Prop} {document : Resource kind}
    (decoded : document.Decoded) (within : document.Within (.ofInstants instants)) :
    document.Sound (.ofTokens instants) := by
  refine decoded.sound ?_
  cases kind with
  | checkState => exact within
  | checkJob => exact congrArg JobSpec.phase decoded.framed.2

/-- Reading back a sound document gives a sound document, with the same metadata and the same
other members. -/
theorem Sound.of_ofValue_toValue {document read : Resource kind} (stable : vocabulary.Stable)
    (sound : document.Sound vocabulary)
    (result : (decoder kind).ofValue document.toValue = .ok read) :
    read.Sound vocabulary ∧ read.metadata = document.metadata ∧ read.extra = document.extra := by
  rw [ofValue_toValue sound.framed] at result
  obtain ⟨spec, reread, rfl⟩ := map_eq_ok_iff.1 result
  have framed := Kind.specFramed_reread sound.framed.spec reread
  exact ⟨⟨⟨sound.framed.metadata, framed, sound.framed.extra⟩, sound.within.reread stable reread⟩,
    rfl, rfl⟩

/-- A sound document comes back as it was if the vocabulary is legible. -/
theorem Sound.ofValue_toValue {document : Resource kind} (legible : vocabulary.Legible kind)
    (sound : document.Sound vocabulary) :
    (decoder kind).ofValue document.toValue = .ok document :=
  ofValue_toValue_eq sound.framed (sound.within.reread_eq legible)

/-- A sound document is decoded from its own value if the vocabulary is legible. -/
theorem Sound.decoded {document : Resource kind} (legible : vocabulary.Legible kind)
    (sound : document.Sound vocabulary) : document.Decoded := by
  refine .inl ⟨document.toValue, ?_⟩
  rw [Decoder.decodeValue, sound.ofValue_toValue legible]
  rfl

end Resource

end HealthLedger.Document
