import HealthLedger.Proofs.Http.Sequel
import HealthLedger.Proofs.Http.Targets

/-!
# Different checks at different addresses

The operations on a check get its state under the sanitized name, and the name stands in the
address as it is. So two checks whose sanitized names differ are never asked for in the same words
if the names are intact behind the address of their collection (`Operation.targets_differ`). A name
with a number sign is not: what stands behind the sign is a fragment and stays behind, so that the
client gets the state of another check and overwrites it (`Operation.numbered_check_overwrites`).
-/

namespace HealthLedger.Http.Client

open Document (Kind)
open Store (Call)

/-- The address of an object is that of its collection, which ends in the plural of a kind, with a
slash and the name. -/
theorem address_get_toList (client : Client) (kind : Kind) (space : String) :
    ∃ first, (client.collectionAddress kind space).toList = first ++ ['s'] ∧
      ∀ name, (client.address (.get name space : Call kind)).toList =
        first ++ 's' :: '/' :: name.toList := by
  obtain ⟨stem, plural⟩ : ∃ stem, kind.plural.toList = stem ++ ['s'] := by
    cases kind with
    | checkState => exact ⟨"checkstate".toList, rfl⟩
    | checkJob => exact ⟨"checkjob".toList, rfl⟩
  have collection : (client.collectionAddress kind space).toList =
      (client.base ++ "/apis/" ++ client.groupVersion ++ "/namespaces/" ++ space ++ "/").toList ++
        stem ++ ['s'] := by
    rw [collectionAddress, String.toList_append, plural, List.append_assoc]
  refine ⟨_, collection, fun name => ?_⟩
  change (client.collectionAddress kind space ++ "/" ++ name).toList = _
  rw [String.toList_append, String.toList_append, collection]
  simp only [List.append_assoc, List.cons_append, List.nil_append]
  rfl

/-- Objects of one collection with different intact names are not got in the same words. -/
theorem get_target_ne {client : Client} {kind : Kind} {name other space : String}
    (fragment : '#' ∉ (client.collectionAddress kind space).toList)
    (intact : Url.Intact name.toList) (intactAlso : Url.Intact other.toList)
    (different : name ≠ other) {request requestOther : Request}
    (formed : client.request? (.get name space : Call kind) = some request)
    (formedAlso : client.request? (.get other space : Call kind) = some requestOther) :
    request.target ≠ requestOther.target := by
  obtain ⟨first, collection, address⟩ := client.address_get_toList kind space
  have fragmentFirst : '#' ∉ first := fun found =>
    fragment (collection ▸ List.mem_append_left _ found)
  have parsed {name : String} {request : Request}
      (formed : client.request? (.get name space : Call kind) = some request) :
      Url.parse? (first ++ 's' :: '/' :: name.toList) = some request.url := by
    obtain ⟨url, authorization, read, -, rfl⟩ := request?_eq_some_iff.1 formed
    rw [← address name]
    exact (Option.filter_eq_some_iff.1 read).1
  intro same
  have same : request.url.target = requestOther.url.target := String.ofList_injective same
  exact different (String.toList_inj.1
    (Url.target_inj fragmentFirst intact intactAlso (parsed formed) (parsed formedAlso) same))

end HealthLedger.Http.Client

namespace HealthLedger.State

open Document (Key)
open Http (Client Network Round Url)
open Store (Call Clock World)

namespace Operation

/-- The operation is one on the check of a name. -/
def OnCheck (rawName space : String) (operation : Operation) : Prop :=
  operation.OnStates ∧ operation.key = ⟨.checkState, Name.sanitize rawName, space⟩

/-- The rounds of an operation that runs alone. -/
def rounds {σ : Type} (client : Client) (network : Network σ) (clock : Clock)
    (operation : Operation) (world : World σ) : List Round :=
  (operation.program.run (client.repository network.logged) clock
    { world with state := (world.state, []) }).2.state.2

variable {σ τ : Type} {client : Client} {network : Network σ} {clock : Clock}
  {operation : Operation} {world : World σ}

/-- An operation on states and jobs gets nothing but the object that it addresses. -/
theorem gets_of_round (onStates : operation.OnStates) {round : Round}
    (sent : round ∈ operation.rounds client network clock world)
    (gets : round.request.method = .get) :
    client.request? operation.gets = some round.request := by
  let start : World (σ × List Round) := { world with state := (world.state, []) }
  have course := course (client.repository network.logged) clock start onStates
  have leads := Store.Program.leads_transcript (client.repository network.logged) clock
    operation.program start
  obtain ⟨pairs, same, logged, relays⟩ := Client.relays_of_leads leads
  have there : round ∈ pairs.map (·.2) := by
    rw [rounds, logged] at sent
    exact sent
  obtain ⟨pair, inside, rfl⟩ := List.mem_map.1 there
  have asked : pair.1 ∈ operation.program.transcript (client.repository network.logged) clock
      start := by
    refine (List.mem_filter.1 (same ▸ List.mem_map.2 ⟨pair, inside, rfl⟩)).1
  obtain ⟨call, answer, own, again⟩ := course.owns _ asked
  have formed := (relays pair inside).formed
  have method := (relays pair inside).method_eq.symm.trans gets
  rw [own] at formed method
  obtain rfl := again method
  exact formed

/-- An operation on a check gets the state of the sanitized name. -/
theorem OnCheck.gets_of_round {rawName space : String} (onCheck : operation.OnCheck rawName space)
    {round : Round} (sent : round ∈ operation.rounds client network clock world)
    (gets : round.request.method = .get) :
    client.request? (.get (Name.sanitize rawName) space : Call .checkState) =
      some round.request := by
  have formed := Operation.gets_of_round onCheck.1 sent gets
  rw [Operation.gets, onCheck.2] at formed
  exact formed

/-- Operations on checks in one namespace whose sanitized names are different and intact never get
anything in the same words, unless the address of the collection has a fragment. -/
theorem targets_differ {rawName rawOther space : String} (client : Client)
    (fragment : '#' ∉ (client.collectionAddress .checkState space).toList)
    (intact : Url.Intact (Name.sanitize rawName).toList)
    (intactAlso : Url.Intact (Name.sanitize rawOther).toList)
    (different : Name.sanitize rawName ≠ Name.sanitize rawOther)
    (network : Network σ) (clock : Clock) (world : World σ)
    (networkOther : Network τ) (clockOther : Clock) (worldOther : World τ)
    {operation other : Operation} (onCheck : operation.OnCheck rawName space)
    (onCheckAlso : other.OnCheck rawOther space) :
    ∀ round ∈ operation.rounds client network clock world,
      ∀ roundOther ∈ other.rounds client networkOther clockOther worldOther,
        round.request.method = .get → roundOther.request.method = .get →
          round.request.target ≠ roundOther.request.target := by
  intro round sent roundOther sentAlso gets getsAlso
  exact Client.get_target_ne fragment intact intactAlso different
    (onCheck.gets_of_round sent gets) (onCheckAlso.gets_of_round sentAlso getsAlso)

/-- Checks of two places of a disk are told apart, with a query or without. -/
theorem disk_targets_differ :
    let client := Client.ofConfig {}
    let rounds (rawName : String) : List Round :=
      (read rawName "ops" .check).rounds client Network.refusing (fun _ => default) { state := () }
    '#' ∉ (client.collectionAddress .checkState "ops").toList ∧
      Url.Intact (Name.sanitize "Disk /var").toList ∧
      Url.Intact (Name.sanitize "Disk /var?full").toList ∧
      Name.sanitize "Disk /var" ≠ Name.sanitize "Disk /var?full" ∧
      (read "Disk /var" "ops" .check).OnCheck "Disk /var" "ops" ∧
      (read "Disk /var?full" "ops" .check).OnCheck "Disk /var?full" "ops" ∧
      ∀ round ∈ rounds "Disk /var", ∀ roundOther ∈ rounds "Disk /var?full",
        round.request.method = .get → roundOther.request.method = .get →
          round.request.target ≠ roundOther.request.target := by
  have fragment : '#' ∉ ((Client.ofConfig {}).collectionAddress .checkState "ops").toList := by
    decide +kernel
  have intact : Url.Intact (Name.sanitize "Disk /var").toList := by decide +kernel
  have intactAlso : Url.Intact (Name.sanitize "Disk /var?full").toList := by decide +kernel
  have different : Name.sanitize "Disk /var" ≠ Name.sanitize "Disk /var?full" := by
    decide +kernel
  have onCheck (rawName : String) : (read rawName "ops" .check).OnCheck rawName "ops" :=
    ⟨trivial, rfl⟩
  exact ⟨fragment, intact, intactAlso, different, onCheck _, onCheck _,
    targets_differ _ fragment intact intactAlso different _ _ _ _ _ _ (onCheck _) (onCheck _)⟩

/-- A server that has the state of a queue and takes it back. -/
def queueServer : Network (List Http.Request) :=
  let state : Http.Response :=
    { status := 200
      body := Text.Utf8.encode
        "\x7b\"metadata\":\x7b\"name\":\"queue\"\x7d,\"spec\":\x7b\"workload\":\"check\"\x7d\x7d" }
  Network.scripted [some state, some state]

/-- What the default client sends to the server when the details of a check are written. -/
def writesOf (rawName : String) : List (Http.Method × String) :=
  ((write "pod" rawName "ops" (.new .check)).rounds (Client.ofConfig {}) queueServer
    (fun _ => default) { state := [] }).map fun round =>
      (round.request.method, round.request.target)

/-- A check with a number sign gets the state of the check without it and overwrites it. -/
theorem numbered_check_overwrites :
    Name.sanitize "Queue#2" ≠ Name.sanitize "Queue" ∧
      writesOf "Queue" =
        [(.get, "/apis/checkstate.dev/v1/namespaces/ops/checkstates/queue"),
          (.put, "/apis/checkstate.dev/v1/namespaces/ops/checkstates/queue")] ∧
      writesOf "Queue#2" = writesOf "Queue" := by
  have plain : writesOf "Queue" =
      [(.get, "/apis/checkstate.dev/v1/namespaces/ops/checkstates/queue"),
        (.put, "/apis/checkstate.dev/v1/namespaces/ops/checkstates/queue")] := by
    decide +kernel
  have numbered : writesOf "Queue#2" =
      [(.get, "/apis/checkstate.dev/v1/namespaces/ops/checkstates/queue"),
        (.put, "/apis/checkstate.dev/v1/namespaces/ops/checkstates/queue")] := by
    decide +kernel
  exact ⟨by decide +kernel, plain, numbered.trans plain.symm⟩

end Operation

end HealthLedger.State
