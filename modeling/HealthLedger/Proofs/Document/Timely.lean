import HealthLedger.Proofs.Document.Grammar
import HealthLedger.Proofs.Document.ReadBack
import HealthLedger.Proofs.Time.Accepted

/-!
# The times of documents that were decoded

What a decoder makes of a time is read as it is written, since it was read before
(`Decoder.instant_yields`). The only time in a document is that of the last run. A field of the
details keeps it or reads it, so all details that were decoded have such a time, from a value, from
an object in a text and from an array in a text, and so does every document
(`Resource.Decoded.timely`).
-/

namespace HealthLedger.Document

open Json (Value Members Tree)

/-- Whatever a decoder makes of a value or of the tree of a text has a property. -/
structure Decoder.Yields {α : Type} (decoder : Decoder α) (good : α → Prop) : Prop where
  /-- What is made of a value has it. -/
  ofValue : ∀ {value : Value} {result : α}, decoder.ofValue value = .ok result → good result
  /-- What is made of the tree of a text has it. -/
  ofTree : ∀ {room : Nat} {tree : Tree} {result : α},
    decoder.ofTree room tree = .ok result → good result

namespace Decoder

/-- An instant that was decoded is read as it is written. -/
theorem instant_yields : instant.Yields Time.Instant.Readable where
  ofValue read := by
    obtain ⟨text, -, parsed⟩ := instant_eq_ok_iff.1 read
    exact Time.Instant.readable_of_parse parsed
  ofTree {_ tree _} read := by
    cases tree with
    | string start stop reading raw =>
      obtain ⟨text, -, meant⟩ := bind_eq_ok_iff.1 read
      exact Time.Instant.readable_of_parse
        (mapError_eq_ok_iff.1 (mapError_eq_ok_iff.1 meant))
    | missing | broken | null | bool | number | array | object => contradiction

/-- What was decoded and is not null has the property that the decoder gives. -/
theorem Yields.optional {α : Type} {decoder : Decoder α} {good : α → Prop}
    (yields : decoder.Yields good) :
    decoder.optional.Yields fun result => ∀ content ∈ result, good content where
  ofValue read := by
    rcases optional_eq_ok_iff.1 read with ⟨-, rfl⟩ | ⟨-, content, inner, rfl⟩
    · exact fun _ none => nomatch none
    · intro other there
      obtain rfl := Option.some.inj there
      exact yields.ofValue inner
  ofTree {_ tree _} read := by
    cases tree with
    | null start stop =>
      obtain rfl := Except.ok.inj read
      exact fun _ none => nomatch none
    | missing | broken | bool | number | string | array | object =>
      obtain ⟨content, inner, rfl⟩ := map_eq_ok_iff.1 read
      intro other there
      obtain rfl := Option.some.inj there
      exact yields.ofTree inner

end Decoder

namespace Details

/-- The time in details, if there is one, is read as it is written. -/
def Timely (details : Details) : Prop := ∀ instant ∈ details.lastRun, instant.Readable

/-- The time that details are read with, if there is one, is read as it is written. -/
def Draft.Timely (draft : Draft) : Prop := draft.finish.Timely

/-- Details whose time was read have a time that is read as it is written. -/
theorem Draft.timely_of_lastRun {draft : Draft}
    (yields : ∀ lastRun ∈ draft.lastRun, ∀ instant ∈ lastRun, instant.Readable) :
    draft.Timely := by
  intro instant there
  obtain ⟨lastRun, given, inside⟩ :
      ∃ lastRun, draft.lastRun = some lastRun ∧ instant ∈ lastRun := by
    simpa [Draft.finish, Option.join_eq_some_iff] using there
  exact yields lastRun given instant inside

/-- The details that were read from members are timely. -/
theorem timely_of_ofMembers {members : Members} {details : Details}
    (read : ofMembers members = .ok details) : details.Timely := by
  obtain ⟨draft, reads, rfl⟩ := ofMembers_eq_ok_iff.1 read
  refine Draft.timely_of_lastRun fun lastRun given => ?_
  obtain ⟨value, -, read⟩ := Decoder.member_eq_ok (given ▸ reads.lastRun)
  exact Decoder.instant_yields.optional.ofValue read

/-- Every field of a draft keeps its time or reads it. -/
theorem timely_of_field {room : Nat} {field : Field Draft} (inside : field ∈ shape.fields)
    {draft : Draft} {tree : Tree} {next : Draft} (timely : draft.Timely)
    (filled : field.read room draft tree = .ok next) : next.Timely := by
  simp only [shape, List.mem_cons, List.not_mem_nil, or_false] at inside
  rcases inside with rfl | rfl | rfl | rfl | rfl | rfl | rfl | rfl
  case inr.inr.inr.inr.inl =>
    obtain ⟨lastRun, read, rfl⟩ := map_eq_ok_iff.1 filled
    exact Decoder.instant_yields.optional.ofTree read
  all_goals
    obtain ⟨_, -, rfl⟩ := map_eq_ok_iff.1 filled
    exact timely

/-- All details that were decoded are timely. -/
theorem decoder_yields : decoder.Yields Timely where
  ofValue {value _} read := by
    cases value with
    | object members => exact timely_of_ofMembers read
    | array items => exact timely_of_ofMembers (ofItems_eq_ok_iff_ofMembers.1 read).2
    | null | bool | number | string => contradiction
  ofTree {room tree result} read := by
    have empty : Draft.Timely {} := fun _ none => nomatch none
    have object (read : shape.ofTree title {} (fun draft => .ok draft.finish) room tree =
        .ok result) : result.Timely := by
      obtain ⟨draft, timely, finished⟩ := Shape.ofTree_eq_ok
        (fun _ inside _ _ _ => timely_of_field inside) (fun _ none => nomatch none) empty read
      exact Except.ok.inj finished ▸ timely
    cases tree with
    | array start items =>
      obtain ⟨inner, -, readItems⟩ := bind_eq_ok_iff.1 read
      obtain ⟨⟨draft, rest⟩, readDraft, closed⟩ := bind_eq_ok_iff.1 readItems
      obtain ⟨_, -, finished⟩ := bind_eq_ok_iff.1 closed
      exact Except.ok.inj finished ▸ Shape.readItems_keeps
        (fun _ inside _ _ _ => timely_of_field inside) empty readDraft
    | missing | broken | null | bool | number | string | object => exact object read

end Details

/-- The time in a specification that was decoded, if there is one, is read as it is written. -/
theorem Kind.specDecoder_yields (kind : Kind) : kind.specDecoder.Yields kind.SpecTimely := by
  cases kind with
  | checkState => exact ⟨Details.decoder_yields.ofValue, Details.decoder_yields.ofTree⟩
  | checkJob => exact ⟨fun _ => trivial, fun _ => trivial⟩

namespace Resource

variable {kind : Kind}

/-- The time in what is read from a value or a tree as a document is read as it is written. -/
theorem decoder_yields :
    (decoder kind).Yields fun document => kind.SpecTimely document.spec where
  ofValue read := by
    obtain ⟨_, -, _, _, -, givenSpec, rfl⟩ := ofValue_eq_ok_iff.1 read
    obtain ⟨_, -, readSpec⟩ := Decoder.member_eq_ok givenSpec
    exact kind.specDecoder_yields.ofValue readSpec
  ofTree {_ _ document} read := by
    have drafted : ∃ draft : Draft kind,
        (∀ spec ∈ draft.spec, kind.SpecTimely spec) ∧ draft.finish = .ok document := by
      refine Shape.ofTree_eq_ok (fun field named draft tree next start filled => ?_)
        (fun keep kept => ?_) (by simp) read
      · simp only [shape, List.mem_cons, List.not_mem_nil, or_false] at named
        rcases named with rfl | rfl
        · obtain ⟨_, -, rfl⟩ := map_eq_ok_iff.1 filled
          exact start
        · obtain ⟨spec, given, rfl⟩ := map_eq_ok_iff.1 filled
          intro other there
          obtain rfl := Option.some.inj there
          exact kind.specDecoder_yields.ofTree given
      · obtain rfl := Option.some.inj kept
        exact fun draft name value tree given start other => start
    obtain ⟨draft, timely, finished⟩ := drafted
    unfold Draft.finish at finished
    split at finished
    · contradiction
    · contradiction
    · next metadata spec givenMetadata givenSpec =>
      obtain rfl := Except.ok.inj finished
      exact timely spec givenSpec

/-- The time in a document that was decoded, if there is one, is read as it is written. -/
theorem Decoded.timely {document : Resource kind} (decoded : document.Decoded) :
    kind.SpecTimely document.spec := by
  rcases decoded with ⟨value, read⟩ | ⟨bytes, read⟩
  · exact decoder_yields.ofValue (mapError_eq_ok_iff.1 read)
  · obtain ⟨_, readTree, rest⟩ := bind_eq_ok_iff.1 (mapError_eq_ok_iff.1 read)
    obtain ⟨_, -, same⟩ := bind_eq_ok_iff.1 rest
    exact decoder_yields.ofTree (Except.ok.inj same ▸ readTree)

/-- A document that was decoded is sound for readable instants and phases of tokens. -/
theorem Decoded.sound_readable {document : Resource kind} (decoded : document.Decoded) :
    document.Sound (.ofTokens Time.Instant.Readable) := by
  refine decoded.sound_ofTokens ?_
  cases kind with
  | checkState => exact decoded.timely
  | checkJob => trivial

end Resource

end HealthLedger.Document
