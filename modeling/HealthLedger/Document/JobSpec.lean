import HealthLedger.Document.Decoder

/-!
# The specification of a check job

A check job moves through phases. A phase is written as its token, and a token that is none of
the known ones is a phase of its own. The other members of a specification are kept as they
are.
-/

namespace HealthLedger.Document

open Json (Value Members Object)

/-- The phase of a check job. -/
inductive Phase where
  /-- The job has no phase yet. -/
  | unset
  /-- The job runs. -/
  | running
  /-- The job has succeeded. -/
  | completed
  /-- The job has failed. -/
  | failed
  /-- The job waits. -/
  | suspended
  /-- A phase this library does not know. -/
  | other (token : String)
  deriving Repr, DecidableEq

namespace Phase

/-- The token of a phase. -/
def token : Phase → String
  | .unset => ""
  | .running => "Running"
  | .completed => "Completed"
  | .failed => "Failed"
  | .suspended => "Suspended"
  | .other token => token

/-- The phase of a token. -/
def ofToken (token : String) : Phase :=
  if token = "" then .unset
  else if token = "Running" then .running
  else if token = "Completed" then .completed
  else if token = "Failed" then .failed
  else if token = "Suspended" then .suspended
  else .other token

/-- The name of the case of a phase. -/
def caseName : Phase → String
  | .unset => "Unset"
  | .running => "Running"
  | .completed => "Completed"
  | .failed => "Failed"
  | .suspended => "Suspended"
  | .other _ => "Other"

/-- A token is the token of its phase. -/
@[simp] theorem token_ofToken (token : String) : (ofToken token).token = token := by
  unfold ofToken
  repeat' split
  all_goals simp_all [Phase.token]

/-- The decoder of a phase. -/
def decoder : Decoder Phase := Decoder.string.map ofToken

/-- A phase as a JSON value. -/
def toValue (phase : Phase) : Value := .string phase.token

end Phase

/-- The specification of a check job. -/
structure JobSpec where
  /-- The phase of the job. -/
  phase : Phase
  /-- All other members. -/
  extra : Object

namespace JobSpec

/-- The specification of a job without a phase. -/
def empty : JobSpec := ⟨.unset, .empty⟩

/-- The keys of the fields. -/
def keys : List String := ["phase"]

/-- The members in the order they are written, the phase first. -/
def members (spec : JobSpec) : Members := ("phase", spec.phase.toValue) :: spec.extra.members

/-- Read a specification from the members of an object. -/
def ofMembers (members : Members) : Except Mismatch JobSpec := do
  let phase ← Phase.decoder.member "phase" members
  .ok ⟨phase.getD .unset, .ofMembers (members.filter (·.1 ∉ keys))⟩

/-- A specification while it is read. -/
structure Draft where
  /-- The phase, if it was read. -/
  phase : Option Phase := none
  /-- The other members, in the order they were read. -/
  extra : Members := []

/-- The specification of a draft. -/
def Draft.finish (draft : Draft) : JobSpec := ⟨draft.phase.getD .unset, .ofMembers draft.extra⟩

/-- The only field of a specification; other members are kept. -/
def shape : Shape Draft where
  fields :=
    [.of "phase" Phase.decoder (·.phase) fun draft phase => { draft with phase := some phase }]
  keep := some fun draft name value => { draft with extra := draft.extra ++ [(name, value)] }

/-- How a specification is named in messages. -/
def title : String := "struct JobSpec"

/-- The decoder of a specification. -/
def decoder : Decoder JobSpec where
  ofValue
    | .object members => ofMembers members
    | value => wrongValue value title
  ofTree := shape.ofTree title {} fun draft => .ok draft.finish

end JobSpec

end HealthLedger.Document
