import HealthLedger.Document.Decoder
import HealthLedger.Time.Printer

/-!
# The state of a check

The details of a check are the outcome of its last run and who wrote it. Every field has a
default, and members that are no fields are dropped. Details may also be read from an array
with the fields in their order, of which the last ones may be left out.
-/

namespace HealthLedger.Document

open Json (Value Members Tree Items)

/-- What runs a check. -/
inductive Workload where
  /-- A check that runs again and again. -/
  | check
  /-- A job that runs once. -/
  | job
  deriving Repr, DecidableEq

namespace Workload

/-- The name of a workload. -/
def name : Workload → String
  | .check => "check"
  | .job => "job"

/-- The workloads by the names they are read from, two of which are of an older format. -/
def choices : List (String × Workload) :=
  [("KuberhealthyCheck", .check), ("check", .check), ("KuberhealthyJob", .job), ("job", .job)]

/-- The decoder of a workload. -/
def decoder : Decoder Workload := .choice choices (choices.map (·.1))

/-- A workload as a JSON value. -/
def toValue (workload : Workload) : Value := .string workload.name

end Workload

/-- The outcome of the last run of a check, and who wrote it. -/
structure Details where
  /-- Whether the run succeeded. -/
  ok : Bool
  /-- What went wrong. -/
  errors : List String
  /-- How long the run took. -/
  runDuration : String
  /-- The namespace the run was in. -/
  space : String
  /-- When the outcome was written. -/
  lastRun : Option Time.Instant
  /-- The pod that wrote the outcome. -/
  authoritativePod : String
  /-- The identity of the run. -/
  currentUuid : String
  /-- What runs the check. -/
  workload : Workload
  deriving Repr, DecidableEq

namespace Details

/-- The details of a check that has not run. -/
def new (workload : Workload) : Details := ⟨false, [], "", "", none, "", "", workload⟩

/-- The details of an outcome. -/
def ofResult (ok : Bool) (errors : List String) : Details := { new .check with ok, errors }

/-- The members in the order they are written. -/
def members (details : Details) : Members :=
  [("ok", .bool details.ok),
   ("errors", .array (details.errors.map .string)),
   ("runDuration", .string details.runDuration),
   ("namespace", .string details.space),
   ("lastRun", (details.lastRun.map fun instant => Value.string instant.text).getD .null),
   ("authoritativePod", .string details.authoritativePod),
   ("currentUUID", .string details.currentUuid),
   ("workload", details.workload.toValue)]

/-- Details while they are read. -/
structure Draft where
  /-- Whether the run succeeded, if it was read. -/
  ok : Option Bool := none
  /-- What went wrong, if it was read. -/
  errors : Option (List String) := none
  /-- How long the run took, if it was read. -/
  runDuration : Option String := none
  /-- The namespace, if it was read. -/
  space : Option String := none
  /-- When the outcome was written, if it was read. -/
  lastRun : Option (Option Time.Instant) := none
  /-- The pod, if it was read. -/
  authoritativePod : Option String := none
  /-- The identity of the run, if it was read. -/
  currentUuid : Option String := none
  /-- What runs the check, if it was read. -/
  workload : Option Workload := none

/-- The details of a draft, with defaults for what was not read. -/
def Draft.finish (draft : Draft) : Details where
  ok := draft.ok.getD false
  errors := draft.errors.getD []
  runDuration := draft.runDuration.getD ""
  space := draft.space.getD ""
  lastRun := draft.lastRun.join
  authoritativePod := draft.authoritativePod.getD ""
  currentUuid := draft.currentUuid.getD ""
  workload := draft.workload.getD .check

/-- Read details from the members of an object. Of several wrong fields the first one in key
order is reported. -/
def ofMembers (members : Members) : Except Mismatch Details := do
  let authoritativePod ← Decoder.string.member "authoritativePod" members
  let currentUuid ← Decoder.string.member "currentUUID" members
  let errors ← Decoder.string.list.member "errors" members
  let lastRun ← Decoder.instant.optional.member "lastRun" members
  let space ← Decoder.string.member "namespace" members
  let ok ← Decoder.bool.member "ok" members
  let runDuration ← Decoder.string.member "runDuration" members
  let workload ← Workload.decoder.member "workload" members
  .ok (Draft.finish
    ⟨ok, errors, runDuration, space, lastRun, authoritativePod, currentUuid, workload⟩)

/-- Read the first item, if there is one. -/
def first {α : Type} (decoder : Decoder α) (items : List Value) : Except Mismatch (Option α) :=
  match items with
  | [] => .ok none
  | value :: _ => some <$> decoder.ofValue value

/-- Read details from the items of an array, which stand for the fields in their order. -/
def ofItems (items : List Value) : Except Mismatch Details := do
  let ok ← first .bool items
  let errors ← first Decoder.string.list (items.drop 1)
  let runDuration ← first .string (items.drop 2)
  let space ← first .string (items.drop 3)
  let lastRun ← first Decoder.instant.optional (items.drop 4)
  let authoritativePod ← first .string (items.drop 5)
  let currentUuid ← first .string (items.drop 6)
  let workload ← first Workload.decoder (items.drop 7)
  if 8 < items.length then .error (.tooLong items.length)
  else .ok (Draft.finish
    ⟨ok, errors, runDuration, space, lastRun, authoritativePod, currentUuid, workload⟩)

/-- The fields of details; other members are passed over. -/
def shape : Shape Draft where
  fields :=
    [.of "ok" .bool (·.ok) fun draft ok => { draft with ok := some ok },
     .of "errors" Decoder.string.list (·.errors)
       fun draft errors => { draft with errors := some errors },
     .of "runDuration" .string (·.runDuration)
       fun draft duration => { draft with runDuration := some duration },
     .of "namespace" .string (·.space) fun draft space => { draft with space := some space },
     .of "lastRun" Decoder.instant.optional (·.lastRun)
       fun draft instant => { draft with lastRun := some instant },
     .of "authoritativePod" .string (·.authoritativePod)
       fun draft pod => { draft with authoritativePod := some pod },
     .of "currentUUID" .string (·.currentUuid)
       fun draft uuid => { draft with currentUuid := some uuid },
     .of "workload" Workload.decoder (·.workload)
       fun draft workload => { draft with workload := some workload }]
  keep := none

/-- How details are named in messages. -/
def title : String := "struct WorkloadDetails"

/-- Read details from the tree of a text. -/
def ofTree (room : Nat) : Tree → Except Finding Details
  | .array start items => do
    let room ← liftFault (Json.enter room start)
    let (draft, rest) ← Shape.readItems room {} shape.fields items
    liftFault rest.close
    .ok draft.finish
  | tree => shape.ofTree title {} (fun draft => .ok draft.finish) room tree

/-- The decoder of details. -/
def decoder : Decoder Details where
  ofValue
    | .object members => ofMembers members
    | .array items => ofItems items
    | value => wrongValue value title
  ofTree := ofTree

end Details

end HealthLedger.Document
