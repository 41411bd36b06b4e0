import HealthLedger.Proofs.Document.Complete

/-!
# Parts of documents

A part is a document or something inside of one that has a form in JSON of its own: a decoder and
a value. From a text in which no object repeats a key, the decoder of a part reads what it reads
from the value of the text (`Part.decodeText_iff_decodeValue`). A repeated key makes a difference:
in a value the last member counts, and in a text a field may not be given twice.
-/

namespace HealthLedger

namespace Json

mutual

/-- Whether a tree is distinct can be decided. -/
def Tree.decideDistinct : (tree : Tree) → Decidable tree.Distinct
  | .array _ items => items.decideDistinct
  | .object _ entries =>
    have := entries.decideDistinct
    inferInstanceAs (Decidable (entries.names.Nodup ∧ entries.Distinct))
  | .missing _ _ | .broken _ _ | .null _ _ | .bool _ _ _ | .number _ _ _ _ | .string _ _ _ _ =>
    inferInstanceAs (Decidable True)

/-- Whether the rest of an array is distinct can be decided. -/
def Items.decideDistinct : (items : Items) → Decidable items.Distinct
  | .item value rest =>
    have := value.decideDistinct
    have := rest.decideDistinct
    inferInstanceAs (Decidable (value.Distinct ∧ rest.Distinct))
  | .done _ | .broken _ _ => inferInstanceAs (Decidable True)

/-- Whether the rest of an object is distinct can be decided. -/
def Entries.decideDistinct : (entries : Entries) → Decidable entries.Distinct
  | .member _ _ value rest =>
    have := value.decideDistinct
    have := rest.decideDistinct
    inferInstanceAs (Decidable (value.Distinct ∧ rest.Distinct))
  | .done _ _ | .broken _ _ _ | .misplaced _ _ | .unpaired _ _ _ =>
    inferInstanceAs (Decidable True)

end

instance (tree : Tree) : Decidable tree.Distinct := tree.decideDistinct

end Json

namespace Document

open Json (Value)

/-- The parts of documents that have a form in JSON. -/
inductive Part where
  /-- The metadata of a document. -/
  | metadata
  /-- The details of a check. -/
  | details
  /-- What runs a check. -/
  | workload
  /-- The phase of a job. -/
  | phase
  /-- The specification of a job. -/
  | jobSpec
  /-- A whole document. -/
  | document (kind : Kind)
  deriving Repr, DecidableEq

namespace Part

/-- What a part holds. -/
abbrev Content : Part → Type
  | .metadata => Metadata
  | .details => Details
  | .workload => Workload
  | .phase => Phase
  | .jobSpec => JobSpec
  | .document kind => Resource kind

/-- The decoder of a part. -/
def decoder : (part : Part) → Decoder part.Content
  | .metadata => Metadata.decoder
  | .details => Details.decoder
  | .workload => Workload.decoder
  | .phase => Phase.decoder
  | .jobSpec => JobSpec.decoder
  | .document kind => Resource.decoder kind

/-- A part as a JSON value. -/
def toValue : (part : Part) → part.Content → Value
  | .metadata, held => .ofMembers (Metadata.members held)
  | .details, held => .ofMembers (Details.members held)
  | .workload, held => Workload.toValue held
  | .phase, held => Phase.toValue held
  | .jobSpec, held => .ofMembers (JobSpec.members held)
  | .document _, held => Resource.toValue held

/-- Every part is read from the value of its tree. -/
theorem faithful (part : Part) : part.decoder.Faithful := by
  cases part with
  | metadata => exact Metadata.faithful
  | details => exact Details.faithful
  | workload => exact Workload.faithful
  | phase => exact Decoder.string_faithful.map _
  | jobSpec => exact JobSpec.faithful
  | document kind => exact Resource.faithful kind

/-- Every part that can be read from a value can be read from its tree. -/
theorem complete (part : Part) : part.decoder.Complete := by
  cases part with
  | metadata => exact Metadata.complete
  | details => exact Details.complete
  | workload => exact Workload.complete
  | phase => exact Decoder.string_complete.map _
  | jobSpec => exact JobSpec.complete
  | document kind => exact Resource.complete kind

/-- From a text that has a value and in which no object repeats a key, a part is read if and only if
it is read from the value, and then it is the same. -/
theorem decodeText_iff_decodeValue (part : Part) {bytes : List UInt8} {value : Value}
    (parsed : Json.parse bytes = .ok value) (distinct : (Json.scan bytes).tree.Distinct)
    (content : part.Content) :
    part.decoder.decodeText bytes = .ok content ↔ part.decoder.decodeValue value = .ok content :=
  Decoder.decodeText_eq_ok_iff_decodeValue part.faithful part.complete parsed distinct

/-- Of a repeated key, the last member counts in a value, and a text is refused. -/
example :
    let twice := Text.Utf8.encode "\x7b\"name\":\"a\",\"name\":\"b\"\x7d"
    (Metadata.decoder.decodeText twice).toOption.isNone ∧
      ((Json.parse twice).toOption.bind fun value =>
        (Metadata.decoder.decodeValue value).toOption.map (·.name)) = some "b" := by
  decide +kernel

/-- A state whose specification is an array and names its workload by an object, in front of the
metadata and of a member that is kept. -/
def arrayedState : List UInt8 :=
  Text.Utf8.encode
    ("\x7b\"spec\":[true,[\"a\"],\"1s\",\"\",null,\"\",\"\",\x7b\"job\":null\x7d]," ++
      "\"kept\":\x7b\"b\":[1.5],\"a\":\"\\u00e9\"\x7d," ++
      "\"metadata\":\x7b\"uid\":null,\"name\":\"api\"\x7d\x7d")

/-- The state is read from its text and from the value of the text. -/
theorem decodeText_arrayedState :
    ∃ value state, Json.parse arrayedState = .ok value ∧
      (Json.scan arrayedState).tree.Distinct ∧
      (Part.document .checkState).decoder.decodeText arrayedState = .ok state ∧
      (Part.document .checkState).decoder.decodeValue value = .ok state := by
  obtain ⟨value, parsed, -⟩ := toOption_map_eq_some_iff.1
    (show (Json.parse arrayedState).toOption.map (fun _ => ()) = some () by decide +kernel)
  obtain ⟨state, decoded, -⟩ := toOption_map_eq_some_iff.1
    (show ((Part.document .checkState).decoder.decodeText arrayedState).toOption.map
      (fun _ => ()) = some () by decide +kernel)
  refine ⟨value, state, parsed, by decide +kernel, decoded, ?_⟩
  exact (decodeText_iff_decodeValue (.document .checkState) parsed (by decide +kernel) state).1
    decoded

end Part

end Document

end HealthLedger
