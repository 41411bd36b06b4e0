import HealthLedger.Proofs.Http.Double

/-!
# Where a store in memory is no double

A store in memory answers where a client of a server cannot. A client cannot ask for an address
that is too long (`Client.long_get_differs`). And whatever a client answers with was decoded from
a text, so that a member a document keeps does not come back if it is nested too deeply
(`Client.deep_load_differs`), or comes back as another one if it has a number that is not read as
it is printed.
-/

namespace HealthLedger.Http

open Document (Kind Key Resource)
open Store (Call Answer Memory Round Script)

namespace Client

variable {client : Client} {origin : Origin} {kind : Kind} {uids served : Nat → String}

/-- A client has no request for a get whose address is too long, and a store in memory has nothing
at first, so the two do not answer alike. -/
theorem long_get_differs (at' : client.At origin) {name space : String}
    (plain : Plain ⟨kind, name, space⟩)
    (long : Url.maxLength < (client.address (.get name space : Call kind)).length)
    (served uids : Nat → String) :
    ¬ List.Forall₂ (client.Paired served uids)
      (Script.play (client.repository (client.server served)) [⟨kind, .get name space⟩] []
        Api.empty).1
      (Script.play (Memory.repository uids) [⟨kind, .get name space⟩] [] Memory.empty).1 := by
  intro alike
  rw [Script.play_single _ rfl, Script.play_single _ rfl] at alike
  have answered := (List.forall₂_cons.1 alike).1.answered
  have request := request?_plain at' (.get name space : Call kind) plain
  rw [if_neg (Nat.not_le.2 long)] at request
  simp only [repository, perform, request] at answered
  -- The client has failed for want of a request, and the store because nothing is there.
  cases answered

/-- A name as long as the longest address. -/
def longName : String := String.ofList (List.replicate Url.maxLength 'a')

/-- A name of small letters can be too long for the default client. -/
theorem longName_differs :
    Plain ⟨.checkState, longName, "ops"⟩ ∧
      ¬ List.Forall₂ ((ofConfig {}).Paired toString toString)
        (Script.play ((ofConfig {}).repository ((ofConfig {}).server toString))
          [⟨.checkState, .get longName "ops"⟩] [] Api.empty).1
        (Script.play (Memory.repository toString) [⟨.checkState, .get longName "ops"⟩] []
          Memory.empty).1 := by
  have letters : ∀ c ∈ longName.toList, c = 'a' := by
    rw [longName, String.toList_ofList]
    exact fun c found => List.eq_of_mem_replicate found
  have length : longName.length = Url.maxLength := by
    rw [longName, String.length_ofList, List.length_replicate]
  have label : IsLabel longName := by
    refine ⟨fun empty => ?_, fun c found => ?_⟩
    · rw [empty] at length
      exact absurd length (by decide)
    · rw [letters c found]
      decide
  have plain : Plain ⟨.checkState, longName, "ops"⟩ := ⟨label, ops_label⟩
  refine ⟨plain, long_get_differs default_at plain ?_ toString toString⟩
  simp only [address, objectAddress, Call.key, String.length_append, length]
  have slash : ("/" : String).length = 1 := rfl
  omega

/-- The number under a key that the job of a round keeps, if it keeps one. -/
def load? : Round → Option Json.Number
  | ⟨.checkJob, _, .ok document⟩ =>
    match (Document.JobSpec.extra document.spec).find? "load" with
    | some (.number number) => some number
    | _ => none
  | _ => none

/-- Rounds that are alike bring the same load. -/
theorem Paired.load? {left right : Round} (paired : client.Paired served uids left right) :
    load? left = load? right := by
  obtain ⟨relayed, answered⟩ := paired
  next kind _ _ _ _ =>
  cases answered with
  | failed error => cases kind <;> rfl
  | shown document born uid sound sendable => cases kind <;> rfl

/-- A script that creates a job with a load. -/
def loadScript (load : Json.Value) : Script :=
  [⟨.checkJob, .create (.given (loadedJob load)) "ops"⟩]

/-- A number that is printed as 1.3481228488691999, which is read as the next double. -/
def driftingNumber : Json.Number := .float ⟨false, 6071405559816980, 1022⟩

/-- A number that is not read as it is printed does not come back from the server. -/
theorem driftingNumber_differs :
    ¬ List.Forall₂ ((ofConfig {}).Paired toString toString)
      ((loadScript (.number driftingNumber)).play
        ((ofConfig {}).repository ((ofConfig {}).server toString)) [] Api.empty).1
      ((loadScript (.number driftingNumber)).play (Memory.repository toString) []
        Memory.empty).1 := by
  intro alike
  rw [loadScript, Script.play_single _ rfl, Script.play_single _ rfl] at alike
  have paired := (List.forall₂_cons.1 alike).1
  have drifts : load? ⟨.checkJob, .create (loadedJob (.number driftingNumber)) "ops",
      ((ofConfig {}).perform ((ofConfig {}).server toString)
        (.create (loadedJob (.number driftingNumber)) "ops") Api.empty).1⟩ ≠
      some driftingNumber := by
    decide +kernel
  exact drifts paired.load?

/-- Arrays within each other, as many as a number says. -/
def nested : Nat → Json.Value
  | 0 => .null
  | depth + 1 => .array [nested depth]

/-- Arrays within each other are read if there is room for all of them. -/
theorem le_of_read_nested {depth room : Nat} {tree : Json.Tree}
    (read : tree.read room = .ok (nested depth)) : depth ≤ room := by
  induction depth generalizing room tree with
  | zero => exact Nat.zero_le room
  | succ depth ih =>
    rw [nested] at read
    cases tree with
    | array start items =>
      obtain ⟨inner, entered, read⟩ := bind_eq_ok_iff.1 read
      obtain ⟨values, given, same⟩ := bind_eq_ok_iff.1 read
      obtain ⟨fits, rfl⟩ := Json.enter_eq_ok_iff.1 entered
      obtain rfl := Json.Value.array.inj (Except.ok.inj same)
      cases items with
      | item first rest =>
        obtain ⟨value, first, read⟩ := bind_eq_ok_iff.1 given
        obtain ⟨others, -, same⟩ := bind_eq_ok_iff.1 read
        obtain ⟨rfl, -⟩ := List.cons.inj (Except.ok.inj same)
        have below := ih first
        omega
      | done => exact nomatch Except.ok.inj given
      | broken => contradiction
    | object start entries =>
      obtain ⟨inner, -, read⟩ := bind_eq_ok_iff.1 read
      obtain ⟨members, -, same⟩ := bind_eq_ok_iff.1 read
      exact nomatch Except.ok.inj same
    | number =>
      obtain ⟨number, -, same⟩ := map_eq_ok_iff.1 read
      contradiction
    | string =>
      obtain ⟨text, -, same⟩ := map_eq_ok_iff.1 read
      contradiction
    | missing => contradiction
    | broken => contradiction
    | null => exact nomatch Except.ok.inj read
    | bool => exact nomatch Except.ok.inj read

/-- A document that is read from a response was decoded from its body. -/
theorem decodeText_of_readResponse {call : Call kind} {response : Response}
    {document : Resource kind} (read : readResponse call response = .ok document) :
    ∃ bytes, (Resource.decoder kind).decodeText bytes = .ok document := by
  unfold readResponse at read
  split at read
  · contradiction
  · split at read
    · contradiction
    · split at read
      · unfold readDocument at read
        split at read
        · contradiction
        · next bytes _ => exact ⟨bytes, mapError_eq_ok_iff.1 read⟩
      · contradiction

/-- Whatever a client answers with was decoded from a text. -/
theorem decodeText_of_perform {σ : Type} {network : Network σ} {call : Call kind} {state : σ}
    {document : Resource kind}
    (ok : ((client.repository network).perform call state).1 = .ok document) :
    ∃ bytes, (Resource.decoder kind).decodeText bytes = .ok document := by
  unfold repository perform at ok
  simp only at ok
  split at ok
  · contradiction
  · next request _ =>
    cases response : (network.exchange request state).1 with
    | none =>
      simp only [response] at ok
      contradiction
    | some given =>
      simp only [response] at ok
      exact decodeText_of_readResponse (mapError_eq_ok_iff.1 ok)

/-- A load that is nested too deeply does not come back from any server. -/
theorem deep_load_differs {σ : Type} (client : Client) (network : Network σ) (state : σ)
    (served uids : Nat → String) {depth : Nat} (deep : Document.innerRoom < depth) :
    ¬ List.Forall₂ (client.Paired served uids)
      ((loadScript (nested depth)).play (client.repository network) [] state).1
      ((loadScript (nested depth)).play (Memory.repository uids) [] Memory.empty).1 := by
  intro alike
  rw [loadScript, Script.play_single _ rfl, Script.play_single _ rfl] at alike
  have answered := (List.forall₂_cons.1 alike).1.answered
  have stored : ((Memory.repository uids).perform (.create (loadedJob (nested depth)) "ops")
      Memory.empty).1 = .ok (Memory.stamp (loadedJob (nested depth)) "ops" 1 (uids 1)) := rfl
  rw [stored] at answered
  generalize answer : ((client.repository network).perform _ state).1 = first at answered
  cases answered with
  | shown document born uid sound sendable =>
    obtain ⟨bytes, decoded⟩ := decodeText_of_perform answer
    have keeps := (Resource.keeps_of_decodeText decoded).spec
    have inside : ("load", nested depth) ∈
        (Document.JobSpec.extra (loadedJob (nested depth)).spec).members := List.mem_cons_self
    obtain ⟨tree, read⟩ := (keeps ("load", nested depth) inside).read
    have room : depth ≤ Document.innerRoom := le_of_read_nested read
    omega

/-- The default client and a store in memory do not answer alike if a label is too long for an
address, if a decoded job keeps a number that is not read as it is printed, or if one keeps a value
that is nested too deeply. -/
theorem default_client_differs :
    (Plain ⟨.checkState, longName, "ops"⟩ ∧
      ¬ List.Forall₂ ((ofConfig {}).Paired toString toString)
        (Script.play ((ofConfig {}).repository ((ofConfig {}).server toString))
          [⟨.checkState, .get longName "ops"⟩] [] Api.empty).1
        (Script.play (Memory.repository toString) [⟨.checkState, .get longName "ops"⟩] []
          Memory.empty).1) ∧
      ∀ load ∈ [Json.Value.number driftingNumber, nested Json.nestingLimit],
        (loadedJob load).Decoded ∧
          ¬ List.Forall₂ ((ofConfig {}).Paired toString toString)
            ((loadScript load).play ((ofConfig {}).repository ((ofConfig {}).server toString)) []
              Api.empty).1
            ((loadScript load).play (Memory.repository toString) [] Memory.empty).1 := by
  refine ⟨longName_differs, List.forall_mem_cons.2 ⟨?_, List.forall_mem_singleton.2 ?_⟩⟩
  · exact ⟨loadedJob_decoded _, driftingNumber_differs⟩
  · exact ⟨loadedJob_decoded _, deep_load_differs _ _ _ _ _ (by decide)⟩

end Client

end HealthLedger.Http
