import HealthLedger.Proofs.Http.Address
import HealthLedger.Proofs.Http.Api

/-!
# Requests that reach the server

A client at a plain origin forms the request of every call whose key is made of labels, unless
the address is too long to be asked (`Client.request?_plain`). The server reads the kind, the
namespace and the name of the call from the path, and the body of a document whose value can be
sent is the value that was written. So a call is answered by what the server makes of its key and
its document (`Client.perform_get`, `Client.perform_create`, `Client.perform_update`).
-/

namespace HealthLedger.Http

open Json (Value Members Object)
open Document (Kind Key Resource Metadata)
open Store (Call Answer Memory Error Reason)

namespace Client

variable {client : Client} {origin : Origin} {kind : Kind}

/-- The client asks a server at an origin, under a group and a version that are plain segments,
with a token that can be sent if there is one. -/
structure At (client : Client) (origin : Origin) : Prop where
  /-- The store is at the origin. -/
  base : client.base.toList = origin.text
  /-- The group is a plain segment. -/
  group : Url.IsSegment client.group.toList
  /-- The version of the group is a plain segment. -/
  version : Url.IsSegment client.version.toList
  /-- The token can be sent. -/
  token : ∀ token ∈ client.token, isSendable token = true

/-- The name and the namespace of a key are labels. -/
structure Plain (key : Key) : Prop where
  /-- The name is a label. -/
  name : IsLabel key.name
  /-- The namespace is a label. -/
  space : IsLabel key.space

/-- The segments of the address of a call. -/
def path (client : Client) : Call kind → List (List Char)
  | .create _ space => Api.collectionPath client.group client.version kind space
  | .get name space => Api.collectionPath client.group client.version kind space ++ [name.toList]
  | .update document space =>
    Api.collectionPath client.group client.version kind space ++ [document.name.toList]

/-- The segments of a collection are plain. -/
theorem collectionPath_plain (at' : client.At origin) (kind : Kind) {space : String}
    (label : IsLabel space) :
    ∀ segment ∈ Api.collectionPath client.group client.version kind space,
      Url.IsSegment segment := by
  have apis : Url.IsSegment "apis".toList :=
    Url.isSegment_of_no_dot (Url.forall_mem_of_all (by decide))
  have namespaces : Url.IsSegment "namespaces".toList :=
    Url.isSegment_of_no_dot (Url.forall_mem_of_all (by decide))
  have plural : Url.IsSegment kind.plural.toList := by
    cases kind with
    | checkState => exact Url.isSegment_of_no_dot (Url.forall_mem_of_all (by decide))
    | checkJob => exact Url.isSegment_of_no_dot (Url.forall_mem_of_all (by decide))
  have spaces := Url.isSegment_of_label label
  simp only [Api.collectionPath, List.map_cons, List.map_nil, List.forall_mem_cons]
  exact ⟨apis, at'.group, at'.version, namespaces, spaces, plural, by simp⟩

/-- The segments of the address of a call are plain if its key is. -/
theorem path_plain (at' : client.At origin) {call : Call kind} (plain : Plain call.key) :
    ∀ segment ∈ client.path call, Url.IsSegment segment := by
  have collection := collectionPath_plain at' kind plain.space
  have name : ∀ segment ∈ [call.key.name.toList], Url.IsSegment segment := by
    intro segment found
    obtain rfl := List.mem_singleton.1 found
    exact Url.isSegment_of_label plain.name
  cases call with
  | create document space => exact collection
  | get name' space => exact List.forall_mem_append.2 ⟨collection, name⟩
  | update document space => exact List.forall_mem_append.2 ⟨collection, name⟩

/-- The address of a collection is the origin with its path. -/
theorem collectionAddress_toList (at' : client.At origin) (kind : Kind) (space : String) :
    (client.collectionAddress kind space).toList =
      origin.text ++ Url.pathText (Api.collectionPath client.group client.version kind space) := by
  simp [collectionAddress, groupVersion, Api.collectionPath, Url.pathText, at'.base]

/-- The address of a call is the origin with its path. -/
theorem address_toList (at' : client.At origin) (call : Call kind) :
    (client.address call).toList = origin.text ++ Url.pathText (client.path call) := by
  have object (name space : String) :
      (client.objectAddress ⟨kind, name, space⟩).toList = origin.text ++
        Url.pathText (Api.collectionPath client.group client.version kind space ++
          [name.toList]) := by
    simp [objectAddress, collectionAddress_toList at', Url.pathText]
  cases call with
  | create document space => exact collectionAddress_toList at' kind space
  | get name space => exact object name space
  | update document space => exact object document.name space

/-- The path of a call has a segment. -/
theorem path_ne_nil (client : Client) (call : Call kind) : client.path call ≠ [] := by
  cases call <;> simp [path, Api.collectionPath]

/-- The request of a call with a plain key asks for its path, and there is none if and only if the
address is too long. -/
theorem request?_plain (at' : client.At origin) (call : Call kind) (plain : Plain call.key) :
    client.request? call =
      if (client.address call).length ≤ Url.maxLength then
        some ⟨method call, origin.url (client.path call), client.token.map ("Bearer " ++ ·),
          client.body call⟩
      else none := by
  have authorization : client.authorization? = some (client.token.map ("Bearer " ++ ·)) := by
    unfold authorization?
    cases token : client.token with
    | none => rfl
    | some token' =>
      have sendable := at'.token token' token
      simp [sendable]
  have url := Url.ofText?_plain origin (client.path_ne_nil call) (path_plain at' plain)
    (address_toList at' call)
  rw [request?, url, authorization]
  split <;> rfl

end Client

namespace Api

/-- The kind with the collection of a kind is the kind. -/
theorem kindOf?_plural (kind : Kind) : kindOf? kind.plural.toList = some kind := by
  cases kind <;> decide

/-- The path of a collection names its kind and its namespace. -/
theorem place?_collectionPath (group version : String) (kind : Kind) (space : String)
    (rest : List (List Char)) :
    place? group version (collectionPath group version kind space ++ rest) =
      some (kind, space, rest) := by
  simp only [collectionPath, List.map_cons, List.map_nil, List.cons_append, List.nil_append,
    place?, if_pos, kindOf?_plural, Option.map_some, String.ofList_toList]

end Api

namespace Client

variable {client : Client} {origin : Origin} {kind : Kind}

/-- The server of a client, with the identities it gives. -/
def server (client : Client) (uids : Nat → String) : Network Api :=
  Api.network client.group client.version uids

/-- A get is answered from what the server has under its key. -/
theorem perform_get (at' : client.At origin) {name space : String}
    (plain : Plain ⟨kind, name, space⟩)
    (fits : (client.address (.get name space : Call kind)).length ≤ Url.maxLength)
    (uids : Nat → String) (api : Api) :
    client.perform (client.server uids) (.get name space : Call kind) api =
      (answer (.get name space) (some (api.get ⟨kind, name, space⟩)), api) := by
  have request := request?_plain at' (.get name space : Call kind) plain
  rw [if_pos fits] at request
  have place := Api.place?_collectionPath client.group client.version kind space [name.toList]
  simp only [perform, request, server, Api.network, Api.respond, method, Origin.url, path, place,
    String.ofList_toList]

/-- A create is answered by what the server makes of the value of its document. -/
theorem perform_create (at' : client.At origin) {document : Resource kind} {space : String}
    (plain : Plain (document.keyIn space))
    (fits : (client.address (.create document space)).length ≤ Url.maxLength)
    (sent : Json.parse (Text.Utf8.encode (client.bodyOf document space).text) =
      .ok (client.bodyOf document space))
    (uids : Nat → String) (api : Api) :
    client.perform (client.server uids) (.create document space) api =
      (answer (.create document space)
          (some (api.post uids kind space (client.bodyOf document space)).1),
        (api.post uids kind space (client.bodyOf document space)).2) := by
  have request := request?_plain at' (.create document space) plain
  have read : (Json.parse (Text.Utf8.encode (client.bodyOf document space).text)).toOption =
      some (client.bodyOf document space) := by
    rw [sent]
    rfl
  rw [if_pos fits] at request
  have place := Api.place?_collectionPath client.group client.version kind space []
  rw [List.append_nil] at place
  simp only [perform, request, server, Api.network, Api.respond, method, Origin.url, path, place,
    body, Api.bodyOf?, Option.bind_some, read]

/-- An update is answered by what the server makes of its key and the value of its document. -/
theorem perform_update (at' : client.At origin) {document : Resource kind} {space : String}
    (plain : Plain (document.keyIn space))
    (fits : (client.address (.update document space)).length ≤ Url.maxLength)
    (sent : Json.parse (Text.Utf8.encode (client.bodyOf document space).text) =
      .ok (client.bodyOf document space))
    (uids : Nat → String) (api : Api) :
    client.perform (client.server uids) (.update document space) api =
      (answer (.update document space)
          (some (api.put (document.keyIn space) (client.bodyOf document space)).1),
        (api.put (document.keyIn space) (client.bodyOf document space)).2) := by
  have request := request?_plain at' (.update document space) plain
  have read : (Json.parse (Text.Utf8.encode (client.bodyOf document space).text)).toOption =
      some (client.bodyOf document space) := by
    rw [sent]
    rfl
  rw [if_pos fits] at request
  have place := Api.place?_collectionPath client.group client.version kind space
    [document.name.toList]
  simp only [perform, request, server, Api.network, Api.respond, method, Origin.url, path, place,
    body, Api.bodyOf?, Option.bind_some, read, String.ofList_toList]
  rfl

end Client

end HealthLedger.Http
