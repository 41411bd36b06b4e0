import HealthLedger.Http.Client
import HealthLedger.Proofs.Document.RoundTrip
import HealthLedger.Proofs.Store.Soundness

/-!
# A server of objects

A server behind an API keeps objects as JSON values and knows nothing of documents. It reads
the kind, the namespace and the name of an object from the path of a request, and the name of a
new object from its metadata. It never stores an object as it came: it stamps the namespace, the
next version and the identity of the object on its metadata. What it stamps on the value of a
document is what a store in memory stamps on the document (`Api.stamped_toValue`).
-/

namespace HealthLedger.Http

open Json (Value Members Object)
open Document (Kind Key Resource Metadata)
open Store (Memory)

/-- A server that keeps objects as JSON values. -/
structure Api where
  /-- The object of a key. -/
  objects : Key → Option Value
  /-- The version of the last write under any key. -/
  lastVersion : Nat

namespace Api

/-- The server without objects. -/
def empty : Api := ⟨fun _ => none, 0⟩

/-- The text under a key of the metadata of an object. -/
def metadataText? (key : String) (object : Value) : Option String :=
  match (object.member? "metadata").bind (·.member? key) with
  | some (.string text) => some text
  | _ => none

/-- An object with what the server says about it in its metadata. -/
def stamped (object : Value) (space version uid : String) : Value :=
  match object.member? "metadata" with
  | some metadata =>
    object.withMember "metadata"
      (((metadata.withMember "namespace" (.string space)).withMember "resourceVersion"
        (.string version)).withMember "uid" (.string uid))
  | none => object

/-- A response with an object. -/
def shown (status : Nat) (object : Value) : Response where
  status
  body := Text.Utf8.encode object.text

/-- A response that says what is wrong. -/
def refused (status : Nat) (message : String) : Response where
  status
  body := Text.Utf8.encode message

/-- Store an object with the next version and show it. -/
def write (api : Api) (status : Nat) (key : Key) (object : Value) (uid : String) :
    Response × Api :=
  let kept := stamped object key.space (toString (api.lastVersion + 1)) uid
  (shown status kept,
    { objects := fun other => if other = key then some kept else api.objects other
      lastVersion := api.lastVersion + 1 })

/-- Show the object of a key. -/
def get (api : Api) (key : Key) : Response :=
  match api.objects key with
  | some object => shown 200 object
  | none => refused 404 "not found"

/-- Add an object to a collection. `uids` gives its identity from the version it is created
with. -/
def post (uids : Nat → String) (api : Api) (kind : Kind) (space : String) (object : Value) :
    Response × Api :=
  if (metadataText? "resourceVersion" object).isSome then
    (refused 400 Memory.versionedCreate, api)
  else
    match metadataText? "name" object with
    | none => (refused 400 "an object must have a name", api)
    | some name =>
      match api.objects ⟨kind, name, space⟩ with
      | some _ => (refused 409 "already exists", api)
      | none => api.write 201 ⟨kind, name, space⟩ object (uids (api.lastVersion + 1))

/-- Replace the object of a key by one that carries its version. It keeps its identity. -/
def put (api : Api) (key : Key) (object : Value) : Response × Api :=
  match api.objects key with
  | none => (refused 404 "not found", api)
  | some kept =>
    if metadataText? "resourceVersion" object = metadataText? "resourceVersion" kept then
      api.write 200 key object ((metadataText? "uid" kept).getD "")
    else (refused 409 "the object has been modified", api)

/-- The kind with a collection of a name. -/
def kindOf? (plural : List Char) : Option Kind :=
  [Kind.checkState, .checkJob].find? fun kind => kind.plural.toList = plural

/-- The segments of the collection of a kind in a namespace of a group. -/
def collectionPath (group version : String) (kind : Kind) (space : String) :
    List (List Char) :=
  ["apis", group, version, "namespaces", space, kind.plural].map String.toList

/-- The kind and the namespace that a path names in a group, and what follows them. -/
def place? (group version : String) : List (List Char) →
    Option (Kind × String × List (List Char))
  | apis :: first :: second :: namespaces :: space :: plural :: rest =>
    if [apis, first, second, namespaces] =
        ["apis", group, version, "namespaces"].map String.toList then
      (kindOf? plural).map fun kind => (kind, String.ofList space, rest)
    else none
  | _ => none

/-- The value of the body of a request. -/
def bodyOf? (request : Request) : Option Value :=
  request.body.bind fun text => (Json.parse (Text.Utf8.encode text)).toOption

/-- The response to a request, and the server behind it. -/
def respond (group version : String) (uids : Nat → String) (request : Request) (api : Api) :
    Response × Api :=
  match request.method, place? group version request.url.path, bodyOf? request with
  | .get, some (kind, space, [name]), _ => (api.get ⟨kind, String.ofList name, space⟩, api)
  | .post, some (kind, space, []), some object => api.post uids kind space object
  | .put, some (kind, space, [name]), some object =>
    api.put ⟨kind, String.ofList name, space⟩ object
  | _, _, _ => (refused 400 "bad request", api)

/-- The network in which the server of a group answers every request. -/
def network (group version : String) (uids : Nat → String) : Network Api where
  exchange request api :=
    let (response, api) := respond group version uids request api
    (some response, api)

section Cases

variable {uids : Nat → String} {api : Api} {kind : Kind} {name space : String} {key : Key}
  {object kept : Value}

/-- An object that carries a version is not added. -/
theorem post_versioned (carried : (metadataText? "resourceVersion" object).isSome) :
    api.post uids kind space object = (refused 400 Memory.versionedCreate, api) :=
  if_pos carried

/-- An object is not added under a key that is taken. -/
theorem post_taken (fresh : metadataText? "resourceVersion" object = none)
    (named : metadataText? "name" object = some name)
    (taken : api.objects ⟨kind, name, space⟩ = some kept) :
    api.post uids kind space object = (refused 409 "already exists", api) := by
  simp [post, fresh, named, taken]

/-- An object without a version is added under a key that is free. -/
theorem post_free (fresh : metadataText? "resourceVersion" object = none)
    (named : metadataText? "name" object = some name)
    (free : api.objects ⟨kind, name, space⟩ = none) :
    api.post uids kind space object =
      api.write 201 ⟨kind, name, space⟩ object (uids (api.lastVersion + 1)) := by
  simp [post, fresh, named, free]

/-- Nothing is replaced under a key that is free. -/
theorem put_missing (free : api.objects key = none) :
    api.put key object = (refused 404 "not found", api) := by
  simp [put, free]

/-- An object is not replaced by one that carries another version. -/
theorem put_stale (found : api.objects key = some kept)
    (other : metadataText? "resourceVersion" object ≠ metadataText? "resourceVersion" kept) :
    api.put key object = (refused 409 "the object has been modified", api) := by
  simp [put, found, other]

/-- An object is replaced by one that carries its version, and keeps its identity. -/
theorem put_current {uid : String} (found : api.objects key = some kept)
    (current : metadataText? "resourceVersion" object = metadataText? "resourceVersion" kept)
    (identity : metadataText? "uid" kept = some uid) :
    api.put key object = api.write 200 key object uid := by
  simp [put, found, current, identity]

end Cases

section Documents

variable {kind : Kind} {document : Resource kind}

/-- The value of a document holds its metadata. -/
theorem member?_metadata (framed : document.Framed) :
    document.toValue.member? "metadata" = some (.ofMembers document.metadata.members) := by
  rw [Resource.toValue, Value.member?_ofMembers, Resource.find?_members framed]
  rfl

/-- The texts in the metadata of the value of a document are those of its fields. -/
theorem metadataText?_toValue (framed : document.Framed) {key : String}
    (field : key ∈ Metadata.keys) :
    metadataText? key document.toValue =
      (match Json.findMember key document.metadata.fields with
        | some (.string text) => some text
        | _ => none) := by
  have nothing := framed.metadata.find?_eq_none field
  rw [metadataText?, member?_metadata framed, Option.bind_some, Value.member?_ofMembers,
    Metadata.find?_members framed.metadata, nothing, Option.or_none]

/-- The name in the value of a document is its name. -/
theorem metadataText?_name (framed : document.Framed) :
    metadataText? "name" document.toValue = some document.name := by
  rw [metadataText?_toValue framed (by simp [Metadata.keys])]
  rfl

/-- The version in the value of a document is the one it carries. -/
theorem metadataText?_version (framed : document.Framed) :
    metadataText? "resourceVersion" document.toValue = document.version := by
  rw [metadataText?_toValue framed (by simp [Metadata.keys]), Resource.version]
  cases version : document.metadata.version <;> cases uid : document.metadata.uid <;>
    simp [Metadata.fields, Json.findMember, version, uid]

/-- The identity in the value of a document is its identity. -/
theorem metadataText?_uid (framed : document.Framed) :
    metadataText? "uid" document.toValue = document.metadata.uid := by
  rw [metadataText?_toValue framed (by simp [Metadata.keys])]
  cases version : document.metadata.version <;> cases uid : document.metadata.uid <;>
    simp [Metadata.fields, Json.findMember, version, uid]

/-- The server stamps the value of a document as a store in memory stamps the document. -/
theorem stamped_toValue (framed : document.Framed) (space : String) (version : Nat)
    (uid : String) :
    stamped document.toValue space (toString version) uid =
      (Memory.stamp document space version uid).toValue := by
  have kept := Memory.stamp_framed framed space version uid
  have metadata : (((Value.ofMembers document.metadata.members).withMember "namespace"
      (.string space)).withMember "resourceVersion" (.string (toString version))).withMember "uid"
        (.string uid) =
      .ofMembers (Memory.stamp document space version uid).metadata.members := by
    simp only [Value.withMember_ofMembers]
    refine Value.ofMembers_congr fun key => ?_
    rw [Metadata.find?_members kept.metadata]
    simp only [Object.find?_ofMembers_concat, Metadata.find?_members framed.metadata]
    by_cases namespaces : "namespace" = key
    · subst namespaces
      rfl
    · by_cases versions : "resourceVersion" = key
      · subst versions
        rfl
      · by_cases uids : "uid" = key
        · subst uids
          rfl
        · cases version : document.metadata.version <;> cases uid : document.metadata.uid <;>
            simp [namespaces, versions, uids, Metadata.fields, Json.findMember, Memory.stamp,
              version, uid]
  simp only [stamped, member?_metadata framed, metadata]
  rw [Resource.toValue, Value.withMember_ofMembers, Resource.toValue]
  refine Value.ofMembers_congr fun key => ?_
  rw [Resource.find?_members kept, Object.find?_ofMembers_concat, Resource.find?_members framed]
  by_cases here : "metadata" = key
  · subst here
    rfl
  · simp [here, Resource.fields, Json.findMember, Memory.stamp]

end Documents

end Api

end HealthLedger.Http
