import HealthLedger.Proofs.Document.Timely
import HealthLedger.Proofs.Http.Mirror
import HealthLedger.Proofs.Json.Integers
import Mathlib.Data.List.Forall2

/-!
# A store in memory doubles a server

A script is what a caller does with a store: it gets documents, and it creates and updates
documents that were given to it or that an earlier call has returned. Against a server that
starts with nothing a client plays a script as a store in memory does
(`Client.memory_doubles_server`): the calls are answered alike, one by one, so that a test that
passes with the one passes with the other. The documents from the server have the marks of the
client, and the server gives the identities.
-/

namespace HealthLedger.Store

open Document (Kind Resource)

/-- A call and its answer. -/
structure Round where
  /-- The kind of the documents. -/
  kind : Kind
  /-- The call. -/
  call : Call kind
  /-- The answer. -/
  answer : Answer kind

/-- The document of a kind that a round has brought, if it has. -/
def Round.document? (kind : Kind) : Round → Option (Resource kind)
  | ⟨other, _, .ok document⟩ => if same : other = kind then some (same ▸ document) else none
  | ⟨_, _, .error _⟩ => none

/-- Where a document comes from. -/
inductive Source (kind : Kind) where
  /-- It was given. -/
  | given (document : Resource kind)
  /-- An earlier call has returned it, the first one being number zero. -/
  | returned (index : Nat)

/-- The document of a source after some rounds, if it has one. -/
def Source.document? {kind : Kind} (history : List Round) : Source kind → Option (Resource kind)
  | .given document => some document
  | .returned index => history[index]?.bind (·.document? kind)

/-- What a caller does next. -/
inductive Step (kind : Kind) where
  /-- Get the document of a name. -/
  | get (name space : String)
  /-- Store a document under a key that has none. -/
  | create (source : Source kind) (space : String)
  /-- Replace a document. -/
  | update (source : Source kind) (space : String)

/-- The call of a step after some rounds, if its source has a document. -/
def Step.call? {kind : Kind} (history : List Round) : Step kind → Option (Call kind)
  | .get name space => some (.get name space)
  | .create source space => (source.document? history).map (.create · space)
  | .update source space => (source.document? history).map (.update · space)

/-- The steps of a caller. -/
abbrev Script := List ((kind : Kind) × Step kind)

/-- Play a script after some rounds: the rounds that follow, and the store behind them. A
step without a document is left out. -/
def Script.play {σ : Type} (repository : Repository σ) :
    Script → List Round → σ → List Round × σ
  | [], _, state => ([], state)
  | ⟨kind, step⟩ :: rest, history, state =>
    match step.call? history with
    | none => play repository rest history state
    | some call =>
      let (answer, after) := repository.perform call state
      let (rounds, last) := play repository rest (history ++ [⟨kind, call, answer⟩]) after
      (⟨kind, call, answer⟩ :: rounds, last)

/-- A script of one step whose source has a document is one round. -/
theorem Script.play_single {σ : Type} (repository : Repository σ) {kind : Kind} {step : Step kind}
    {call : Call kind} (made : step.call? [] = some call) (state : σ) :
    (Script.play repository [⟨kind, step⟩] [] state).1 =
      [⟨kind, call, (repository.perform call state).1⟩] := by
  simp only [Script.play, made]

end HealthLedger.Store

namespace HealthLedger.Http

open Document (Kind Key Resource)
open Store (Call Answer Memory Round Source Step Script)

namespace Client

variable {client : Client} {origin : Origin} {kind : Kind} {uids served : Nat → String}
  {api : Api} {memory : Memory}

/-- Two rounds are alike: their calls are, and their answers are. -/
inductive Paired (client : Client) (served uids : Nat → String) : Round → Round → Prop
  /-- The calls and the answers are alike. -/
  | both {kind : Kind} {left right : Call kind} {first second : Answer kind}
      (relayed : client.Relayed left right) (answered : client.Answered served uids first second) :
      Paired client served uids ⟨kind, left, first⟩ ⟨kind, right, second⟩

/-- The answers of two rounds that are alike are alike. -/
theorem Paired.answered {left right : Call kind} {first second : Answer kind}
    (paired : client.Paired served uids ⟨kind, left, first⟩ ⟨kind, right, second⟩) :
    client.Answered served uids first second := by
  obtain ⟨-, answered⟩ := paired
  exact answered

/-- Two documents, if there are any, are alike and come back as they were from every store. -/
def Shared (client : Client) (left right : Option (Resource kind)) : Prop :=
  Option.Rel (fun first second =>
    client.Alike first second ∧ second.Sound readable ∧ second.Sendable) left right

/-- Rounds that are alike have brought documents that are. -/
theorem Paired.document? {left right : Round}
    (paired : client.Paired served uids left right) (kind : Kind) :
    client.Shared (left.document? kind) (right.document? kind) := by
  obtain ⟨relayed, answered⟩ := paired
  next other _ _ _ _ =>
  cases answered with
  | failed error => exact .none
  | shown document born uid sound sendable =>
    by_cases same : other = kind
    · subst same
      simp only [Round.document?, dif_pos]
      exact .some ⟨.seen document _, sound, sendable⟩
    · simp only [Round.document?, dif_neg same]
      exact .none

/-- A given document was decoded, and its kept members can be sent. They can if the document came
as a text and the numbers in them are read as they are printed
(`Resource.sendable_of_decodeText`). -/
def Fair : Source kind → Prop
  | .given document => document.Decoded ∧ document.Sendable
  | .returned _ => True

/-- The source of a step, if it has one, is fair. -/
def FairStep : Step kind → Prop
  | .get _ _ => True
  | .create source _ => Fair source
  | .update source _ => Fair source

variable {left right : List Round}

/-- A fair source has documents that are alike after histories that are alike. -/
theorem shared_of_source (alike : List.Forall₂ (client.Paired served uids) left right)
    {source : Source kind} (fair : Fair source) :
    client.Shared (source.document? left) (source.document? right) := by
  cases source with
  | given document =>
    obtain ⟨decoded, sendable⟩ := fair
    exact .some ⟨.same document, decoded.sound_readable, sendable⟩
  | returned index =>
    clear fair
    induction alike generalizing index with
    | nil => exact .none
    | cons first _ ih =>
      cases index with
      | zero => exact first.document? kind
      | succ index => exact ih index

/-- A fair step makes calls that are alike after histories that are alike. -/
theorem relayed_of_step (alike : List.Forall₂ (client.Paired served uids) left right)
    {step : Step kind} (fair : FairStep step) :
    Option.Rel (fun first second => client.Relayed first second ∧ Carries second)
      (step.call? left) (step.call? right) := by
  cases step with
  | get name space => exact .some ⟨.get name space, trivial⟩
  | create source space =>
    have shared := shared_of_source alike fair
    simp only [Step.call?]
    generalize source.document? left = first, source.document? right = second at shared ⊢
    cases shared with
    | none => exact .none
    | some both => exact .some ⟨.create space both.1, both.2⟩
  | update source space =>
    have shared := shared_of_source alike fair
    simp only [Step.call?]
    generalize source.document? left = first, source.document? right = second at shared ⊢
    cases shared with
    | none => exact .none
    | some both => exact .some ⟨.update space both.1, both.2⟩

/-- Against a server and a store that mirror each other, after histories that are alike, a script
is answered alike and leaves a server and a store behind that mirror each other. -/
theorem Mirrors.play (at' : client.At origin) (script : Script)
    (fair : ∀ step ∈ script, FairStep step.2) (mirrors : client.Mirrors served uids api memory)
    (alike : List.Forall₂ (client.Paired served uids) left right)
    (reaches : ∀ round ∈ (script.play (Memory.repository uids) right memory).1,
      client.Reaches round.call) :
    List.Forall₂ (client.Paired served uids)
        (script.play (client.repository (client.server served)) left api).1
        (script.play (Memory.repository uids) right memory).1 ∧
      client.Mirrors served uids
        (script.play (client.repository (client.server served)) left api).2
        (script.play (Memory.repository uids) right memory).2 := by
  induction script generalizing api memory left right with
  | nil => exact ⟨.nil, mirrors⟩
  | cons first rest ih =>
    obtain ⟨kind, step⟩ := first
    have others : ∀ step ∈ rest, FairStep step.2 := fun step found =>
      fair step (List.mem_cons_of_mem _ found)
    have calls := relayed_of_step alike (fair ⟨kind, step⟩ List.mem_cons_self)
    rw [Script.play] at reaches
    rw [Script.play, Script.play]
    revert calls reaches
    cases step.call? left <;> cases step.call? right <;> intro reaches calls
    · exact ih others mirrors alike reaches
    · cases calls
    · cases calls
    · next earlier later =>
      obtain ⟨relayed, carries⟩ : client.Relayed earlier later ∧ Carries later := by
        cases calls
        assumption
      have reached := reaches _ List.mem_cons_self
      obtain ⟨answered, after⟩ := mirrors.perform at' relayed carries reached
      have longer := List.rel_append alike (.cons (.both relayed answered) .nil)
      obtain ⟨rounds, last⟩ := ih others after longer fun round found =>
        reaches round (List.mem_cons_of_mem _ found)
      exact ⟨.cons (.both relayed answered) rounds, last⟩

/-- Against a server with nothing in it a client plays a script as a store in memory does. -/
theorem memory_doubles_server (at' : client.At origin) (served uids : Nat → String)
    (script : Script) (fair : ∀ step ∈ script, FairStep step.2)
    (reaches : ∀ round ∈ (script.play (Memory.repository uids) [] Memory.empty).1,
      client.Reaches round.call) :
    List.Forall₂ (client.Paired served uids)
        (script.play (client.repository (client.server served)) [] Api.empty).1
        (script.play (Memory.repository uids) [] Memory.empty).1 ∧
      client.Mirrors served uids
        (script.play (client.repository (client.server served)) [] Api.empty).2
        (script.play (Memory.repository uids) [] Memory.empty).2 :=
  Mirrors.play at' script fair (client.empty_mirrors served uids) .nil reaches

/-- The origin of the address that is configured by default. -/
def defaultOrigin : Origin where
  scheme := .https
  host := "kubernetes.default.svc".toList
  port := none
  readable := by decide +kernel
  visible := Url.forall_mem_of_all (by decide +kernel)

/-- The client of the default configuration is at the default origin. -/
theorem default_at : (ofConfig {}).At defaultOrigin where
  base := by decide +kernel
  group := ⟨Url.forall_mem_of_all (by decide +kernel), by decide +kernel, by decide +kernel⟩
  version := ⟨Url.forall_mem_of_all (by decide +kernel), by decide +kernel, by decide +kernel⟩
  token := by simp [ofConfig]

/-- The namespace of the examples below is a label. -/
theorem ops_label : IsLabel "ops" := ⟨by decide, Url.forall_mem_of_all (by decide)⟩

/-- A job that keeps a load. -/
def loadedJob (load : Json.Value) : Document.CheckJob :=
  .new "nightly" "" ⟨.unset, .ofMembers [("load", load)]⟩

/-- A job that keeps a load is decoded from its own value. -/
theorem loadedJob_decoded (load : Json.Value) : (loadedJob load).Decoded := by
  have spec : Kind.SpecFramed .checkJob (loadedJob load).spec := by
    intro member kept
    obtain rfl := List.mem_singleton.1 kept
    simp [Document.JobSpec.keys]
  have sound : (loadedJob load).Sound readable :=
    ⟨⟨Json.Object.empty_avoids _, spec, Json.Object.empty_avoids _⟩, rfl⟩
  exact sound.decoded (readable_legible _)

/-- A job can be sent if its load can. -/
theorem loadedJob_sendable {load : Json.Value} (sendable : load.Sendable Document.innerRoom) :
    (loadedJob load).Sendable := by
  refine ⟨fun _ kept => (nomatch kept), fun member kept => ?_, fun _ kept => (nomatch kept)⟩
  obtain rfl := List.mem_singleton.1 kept
  exact sendable

/-- A caller creates a job that keeps a number, puts it back as it was returned and gets it. -/
def countedScript : Script :=
  [⟨.checkJob, .create (.given (loadedJob (.number (.integer 3)))) "ops"⟩,
   ⟨.checkJob, .update (.returned 0) "ops"⟩, ⟨.checkJob, .get "nightly" "ops"⟩]

/-- The default client and a store in memory answer alike when a job is created, put back and
got. -/
theorem counted_job_doubled :
    (∀ step ∈ countedScript, FairStep step.2) ∧
      (∀ round ∈ (countedScript.play (Memory.repository toString) [] Memory.empty).1,
        (ofConfig {}).Reaches round.call) ∧
      List.Forall₂ ((ofConfig {}).Paired toString toString)
        (countedScript.play ((ofConfig {}).repository ((ofConfig {}).server toString)) []
          Api.empty).1
        (countedScript.play (Memory.repository toString) [] Memory.empty).1 := by
  have sendable : (loadedJob (.number (.integer 3))).Sendable :=
    loadedJob_sendable (Json.Number.readable_integer (by decide) (by decide))
  have fair : ∀ step ∈ countedScript, FairStep step.2 := by
    simp only [countedScript, List.forall_mem_cons]
    exact ⟨⟨loadedJob_decoded _, sendable⟩, trivial, trivial, fun _ none => nomatch none⟩
  have name : IsLabel "nightly" := ⟨by decide, Url.forall_mem_of_all (by decide)⟩
  have plain : Plain ⟨.checkJob, "nightly", "ops"⟩ := ⟨name, ops_label⟩
  have keys : ∀ round ∈ (countedScript.play (Memory.repository toString) [] Memory.empty).1,
      round.call.key = ⟨.checkJob, "nightly", "ops"⟩ := by
    decide +kernel
  have short : ∀ round ∈ (countedScript.play (Memory.repository toString) [] Memory.empty).1,
      ((ofConfig {}).address round.call).length ≤ Url.maxLength := by
    decide +kernel
  have reaches : ∀ round ∈ (countedScript.play (Memory.repository toString) [] Memory.empty).1,
      (ofConfig {}).Reaches round.call :=
    fun round found => ⟨keys round found ▸ plain, short round found⟩
  exact ⟨fair, reaches,
    (memory_doubles_server default_at toString toString countedScript fair reaches).1⟩

end Client

end HealthLedger.Http
