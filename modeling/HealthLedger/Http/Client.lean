import HealthLedger.Config
import HealthLedger.Http.Network
import HealthLedger.Store.Program

/-!
# A store behind an API

The store keeps the documents of a kind and a namespace in a collection with an address of its
own, and every document under its name below it. A call of the store is one request: a get of
the object, a post to the collection or a put of the object. The status of the response says
what became of the call; a conflict means that the key was taken if the request was a post, and
that someone else has written if it was not. Requests are never repeated.
-/

namespace HealthLedger.Http

open Document (Kind Resource Key)
open Store (Call Answer Error Reason Repository)

/-- What is needed to form requests. -/
structure Client where
  /-- The address of the store, without slashes at its end. -/
  base : String
  /-- The group of the documents. -/
  group : String
  /-- The version of the group. -/
  version : String
  /-- The token that is sent along. -/
  token : Option String
  deriving Repr, DecidableEq

namespace Client

/-- A text without slashes at its end. -/
def withoutSlashes (text : String) : String :=
  String.ofList (text.toList.reverse.dropWhile (· = '/')).reverse

/-- The client of a configuration. An empty token counts as none. -/
def ofConfig (config : Config) : Client where
  base := withoutSlashes config.baseUrl
  group := config.apiGroup
  version := config.apiVersion
  token := config.token.filter (· ≠ "")

/-- The group and the version of the documents. -/
def groupVersion (client : Client) : String := client.group ++ "/" ++ client.version

/-- The address of the collection of a kind in a namespace. -/
def collectionAddress (client : Client) (kind : Kind) (space : String) : String :=
  client.base ++ "/apis/" ++ client.groupVersion ++ "/namespaces/" ++ space ++ "/" ++ kind.plural

/-- The address of the object of a key. -/
def objectAddress (client : Client) (key : Key) : String :=
  client.collectionAddress key.kind key.space ++ "/" ++ key.name

/-- The value that is sent for a document: with its namespace, and with the version and the kind
that the store expects. -/
def bodyOf {kind : Kind} (client : Client) (document : Resource kind) (space : String) :
    Json.Value :=
  let document := { document with metadata := { document.metadata with space } }
  .ofMembers (document.members .ofMembers ++
    [("apiVersion", .string client.groupVersion), ("kind", .string kind.name)])

/-- Whether a text can be sent as a field of a request. -/
def isSendable (text : String) : Bool :=
  text.toList.all fun c => c = '\t' || (0x20 ≤ c.toNat && c.toNat ≠ 0x7F)

/-- The field that names the token. There is none without a token, and no request with a token that
cannot be sent. -/
def authorization? (client : Client) : Option (Option String) :=
  match client.token with
  | none => some none
  | some token => if isSendable token then some (some ("Bearer " ++ token)) else none

/-- What the request of a call does. -/
def method {kind : Kind} : Call kind → Method
  | .get _ _ => .get
  | .create _ _ => .post
  | .update _ _ => .put

/-- The address that a call asks for. -/
def address {kind : Kind} (client : Client) (call : Call kind) : String :=
  match call with
  | .create _ space => client.collectionAddress kind space
  | call => client.objectAddress call.key

/-- The body of a call. -/
def body {kind : Kind} (client : Client) : Call kind → Option String
  | .get _ _ => none
  | .create document space => some (client.bodyOf document space).text
  | .update document space => some (client.bodyOf document space).text

/-- The request of a call, if one can be formed. -/
def request? {kind : Kind} (client : Client) (call : Call kind) : Option Request := do
  let url ← Url.ofText? (client.address call)
  let authorization ← client.authorization?
  some ⟨method call, url, authorization, client.body call⟩

/-- What it means that a request conflicts with what is stored. -/
def conflictReason {kind : Kind} : Call kind → Reason
  | .create _ _ => .alreadyExists
  | _ => .conflict

/-- The document of a response. -/
def readDocument (kind : Kind) (response : Response) : Except Reason (Resource kind) :=
  match response.content? with
  | none => .error (.transport "the response is incomplete")
  | some bytes => ((Resource.decoder kind).decodeText bytes).mapError (.codec ·.message)

/-- What a response says about a call. -/
def readResponse {kind : Kind} (call : Call kind) (response : Response) :
    Except Reason (Resource kind) :=
  if response.status = 404 then .error .notFound
  else if response.status = 409 then .error (conflictReason call)
  else if response.isSuccess then readDocument kind response
  else .error (.api response.status response.complaint)

/-- The answer to a call from the response to its request, if there is one. -/
def answer {kind : Kind} (call : Call kind) : Option Response → Answer kind
  | none => .error ⟨call.key, .transport "there is no response"⟩
  | some response => (readResponse call response).mapError (⟨call.key, ·⟩)

/-- Answer a call over a network. -/
def perform {σ : Type} (client : Client) (network : Network σ) {kind : Kind} (call : Call kind)
    (state : σ) : Answer kind × σ :=
  match client.request? call with
  | none => (.error ⟨call.key, .transport "the request cannot be formed"⟩, state)
  | some request =>
    let (response, state) := network.exchange request state
    (answer call response, state)

/-- The store behind an API as a repository. -/
def repository {σ : Type} (client : Client) (network : Network σ) : Repository σ :=
  ⟨client.perform network⟩

end Client

end HealthLedger.Http
