import HealthLedger.Proofs.Document.Transport
import HealthLedger.Proofs.Http.Api

/-!
# Documents with the marks of a client

A client sends a document with two more members, which name the version of the group and the
kind, and the server keeps them. So what comes back is the document with the marks of the client
(`Client.marked`) and with the identity the server has given (`Client.seen`). Marks take nothing
away: a marked document is as sound as before and can be sent as before, and a document that is
sent again has the marks it had.
-/

namespace HealthLedger.Http

open Json (Value Members Object)
open Document (Kind Key Resource Metadata Vocabulary)
open Store (Call Answer Memory)

namespace Client

variable {client : Client} {kind : Kind} {document : Resource kind} {vocabulary : Vocabulary}

/-- The members that a client adds to documents of a kind. -/
def marks (client : Client) (kind : Kind) : Members :=
  [("apiVersion", .string client.groupVersion), ("kind", .string kind.name)]

/-- A document with the marks of a client. -/
def marked (client : Client) (document : Resource kind) : Resource kind :=
  { document with extra := .ofMembers (document.extra.members ++ client.marks kind) }

/-- A document as a client sees it that was given an identity by the server. -/
def seen (client : Client) (document : Resource kind) (uid : String) : Resource kind :=
  { client.marked document with metadata := { document.metadata with uid := some uid } }

/-- Members and marks hold the marks, and under other keys what the members hold. -/
theorem find?_marks (client : Client) (kind : Kind) (members : Members) (key : String) :
    (Object.ofMembers (members ++ client.marks kind)).find? key =
      (Json.findMember key (client.marks kind)).or ((Object.ofMembers members).find? key) := by
  have parts : members ++ client.marks kind =
      (members ++ [("apiVersion", .string client.groupVersion)]) ++
        [("kind", .string kind.name)] := by
    simp [marks]
  rw [parts, Object.find?_ofMembers_concat, Object.find?_ofMembers_concat]
  by_cases kinds : "kind" = key
  · subst kinds
    simp [marks, Json.findMember]
  · by_cases versions : "apiVersion" = key <;> simp [marks, Json.findMember, kinds, versions]

/-- A marked document holds the marks, and under other keys what the document holds. -/
theorem find?_marked (client : Client) (document : Resource kind) (key : String) :
    (client.marked document).extra.find? key =
      (Json.findMember key (client.marks kind)).or (document.extra.find? key) := by
  rw [marked, find?_marks, Object.ofMembers_members]

/-- Marking twice is marking once. -/
theorem marked_marked (client : Client) (document : Resource kind) :
    client.marked (client.marked document) = client.marked document := by
  have extra : (client.marked (client.marked document)).extra = (client.marked document).extra := by
    refine Object.ext_find? fun key => ?_
    rw [find?_marked, find?_marked]
    cases Json.findMember key (client.marks kind) <;> simp
  exact congrArg (fun extra => { document with extra }) extra

/-- A document that was seen is sent as the one it shows, but for the identity. -/
theorem marked_seen (client : Client) (document : Resource kind) (uid : String) :
    client.marked (client.seen document uid) = client.seen document uid := by
  have same := congrArg Resource.extra (client.marked_marked document)
  exact congrArg (fun extra => { client.seen document uid with extra }) same

/-- No mark has the key of a field. -/
theorem marks_avoid (client : Client) (kind : Kind) {key : String} (field : key ∈ Resource.keys) :
    Json.findMember key (client.marks kind) = none := by
  simp only [Resource.keys, List.mem_cons, List.not_mem_nil, or_false] at field
  rcases field with rfl | rfl <;> rfl

/-- A framed document is framed when it is marked. -/
theorem marked_framed (client : Client) (framed : document.Framed) :
    (client.marked document).Framed := by
  refine ⟨framed.metadata, framed.spec, Object.avoids_of_find?_eq_none fun key field => ?_⟩
  rw [find?_marked, client.marks_avoid kind field, framed.extra.find?_eq_none field]
  rfl

/-- A document is as sound as before when it is seen. -/
theorem seen_sound (client : Client) (sound : document.Sound vocabulary) (uid : String) :
    (client.seen document uid).Sound vocabulary := by
  have framed := client.marked_framed sound.framed
  exact ⟨⟨framed.metadata, framed.spec, framed.extra⟩, sound.within⟩

/-- A document can be sent as before when it is marked. -/
theorem marked_sendable (client : Client) (sendable : document.Sendable) :
    (client.marked document).Sendable := by
  refine ⟨sendable.metadata, sendable.spec, fun member found => ?_⟩
  rcases List.mem_append.1 (Json.mem_of_mem_sortMembers found) with kept | mark
  · exact sendable.extra member kept
  · simp only [marks, List.mem_cons, List.not_mem_nil, or_false] at mark
    rcases mark with rfl | rfl <;> trivial

/-- A document can be sent as before when it is seen. -/
theorem seen_sendable (client : Client) (sendable : document.Sendable) (uid : String) :
    (client.seen document uid).Sendable := by
  have marked := client.marked_sendable sendable
  exact ⟨marked.metadata, marked.spec, marked.extra⟩

/-- A document can be sent as before when it is stamped. -/
theorem stamp_sendable (sendable : document.Sendable) (space : String) (version : Nat)
    (uid : String) : (Memory.stamp document space version uid).Sendable :=
  ⟨sendable.metadata, sendable.spec, sendable.extra⟩

/-- What a client sends is the value of the marked document in its namespace. -/
theorem bodyOf_eq (client : Client) (framed : document.Framed) (space : String) :
    client.bodyOf document space = (client.marked
      { document with metadata := { document.metadata with space } }).toValue := by
  let placed : Resource kind := { document with metadata := { document.metadata with space } }
  have placedFramed : placed.Framed := ⟨framed.metadata, framed.spec, framed.extra⟩
  change Value.ofMembers (placed.members .ofMembers ++ client.marks kind) =
    .ofMembers ((client.marked placed).members .ofMembers)
  refine Value.ofMembers_congr fun key => ?_
  rw [find?_marks, Resource.find?_members placedFramed,
    Resource.find?_members (client.marked_framed placedFramed), find?_marked]
  have fields : (client.marked placed).fields = placed.fields := rfl
  rw [fields]
  by_cases field : key ∈ Resource.keys
  · rw [client.marks_avoid kind field]
    simp
  · have nothing : Json.findMember key placed.fields = none :=
      Json.findMember_eq_none fun member found same =>
        field (same ▸ placed.fields_named member found)
    simp [nothing]

/-- A document that can be sent arrives as it was sent. -/
theorem bodyOf_arrives (client : Client) (framed : document.Framed)
    (sendable : document.Sendable) (space : String) :
    Json.parse (Text.Utf8.encode (client.bodyOf document space).text) =
      .ok (client.bodyOf document space) := by
  let placed : Resource kind := { document with metadata := { document.metadata with space } }
  have placedSendable : placed.Sendable := ⟨sendable.metadata, sendable.spec, sendable.extra⟩
  rw [client.bodyOf_eq framed]
  exact (client.marked_sendable placedSendable).parse

/-- A document arrives with its name. -/
theorem bodyOf_name (client : Client) (framed : document.Framed) (space : String) :
    Api.metadataText? "name" (client.bodyOf document space) = some document.name := by
  rw [client.bodyOf_eq framed, Api.metadataText?_name]
  · rfl
  · exact client.marked_framed ⟨framed.metadata, framed.spec, framed.extra⟩

/-- A document arrives with its version. -/
theorem bodyOf_version (client : Client) (framed : document.Framed) (space : String) :
    Api.metadataText? "resourceVersion" (client.bodyOf document space) = document.version := by
  rw [client.bodyOf_eq framed, Api.metadataText?_version]
  · rfl
  · exact client.marked_framed ⟨framed.metadata, framed.spec, framed.extra⟩

/-- A document is the same as another one for whoever sends them: they are the same, or one was
seen that shows the other. -/
inductive Alike (client : Client) : Resource kind → Resource kind → Prop
  /-- The two are the same. -/
  | same (document : Resource kind) : Alike client document document
  /-- The first one shows the second one. -/
  | seen (document : Resource kind) (uid : String) :
      Alike client (client.seen document uid) document

variable {left right : Resource kind}

/-- Documents that are alike are sent alike, but for the identity. -/
theorem Alike.marked (alike : client.Alike left right) :
    ∃ uid, client.marked left =
      { client.marked right with metadata := { right.metadata with uid } } := by
  cases alike with
  | same => exact ⟨_, rfl⟩
  | seen _ uid => exact ⟨some uid, client.marked_seen right uid⟩

/-- Documents that are alike have the same name. -/
theorem Alike.name (alike : client.Alike left right) : left.name = right.name := by
  cases alike <;> rfl

/-- Documents that are alike carry the same version. -/
theorem Alike.version (alike : client.Alike left right) : left.version = right.version := by
  cases alike <;> rfl

/-- A document that is alike to a sound one is sound. -/
theorem Alike.sound (alike : client.Alike left right) (sound : right.Sound vocabulary) :
    left.Sound vocabulary := by
  cases alike with
  | same => exact sound
  | seen _ uid => exact client.seen_sound sound uid

/-- A document that is alike to one that can be sent can be sent. -/
theorem Alike.sendable (alike : client.Alike left right) (sendable : right.Sendable) :
    left.Sendable := by
  cases alike with
  | same => exact sendable
  | seen _ uid => exact client.seen_sendable sendable uid

/-- What a server makes of a document is what a client sees of the one that a store in memory
makes of a document alike. -/
theorem Alike.stamped (alike : client.Alike left right) (framed : left.Framed) (space : String)
    (version : Nat) (uid served : String) :
    Api.stamped (client.bodyOf left space) space (toString version) served =
      (client.seen (Memory.stamp right space version uid) served).toValue := by
  have placed : Resource.Framed
      { left with metadata := { left.metadata with space } } :=
    ⟨framed.metadata, framed.spec, framed.extra⟩
  rw [client.bodyOf_eq framed, Api.stamped_toValue (client.marked_framed placed)]
  obtain ⟨other, same⟩ := alike.marked
  -- The stamp covers the namespace, the version and the identity, so the two are the same.
  have stamps :=
    congrArg (fun document => (Memory.stamp document space version served).toValue) same
  exact stamps

end Client

end HealthLedger.Http
