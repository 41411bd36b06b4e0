import HealthLedger.Http.Url
import HealthLedger.Text.Charset

/-!
# Requests and responses

A request asks a host for something, in the name of a token and with a body that may be empty. A
response has a status and a body, of which only a part may have arrived, and it may name the charset
of the body. A body that says what went wrong is read by its charset (`Response.complaint`); a
document is read from the bytes themselves.
-/

namespace HealthLedger.Http

/-- What a request does. -/
inductive Method where
  /-- Read an object. -/
  | get
  /-- Add an object to a collection. -/
  | post
  /-- Replace an object. -/
  | put
  deriving Repr, DecidableEq

/-- The name of a method. -/
def Method.name : Method → String
  | .get => "GET"
  | .post => "POST"
  | .put => "PUT"

/-- A request. -/
structure Request where
  /-- What the request does. -/
  method : Method
  /-- Who is asked, and for what. -/
  url : Url
  /-- In whose name. -/
  authorization : Option String
  /-- The text of the body, which is JSON, if there is one. -/
  body : Option String
  deriving Repr, DecidableEq

namespace Request

/-- What a request asks for. -/
def target (request : Request) : String := String.ofList request.url.target

/-- The type of the body, if there is one. -/
def contentType (request : Request) : Option String := request.body.map fun _ => "application/json"

end Request

/-- A response. Of its headers only the type of the content counts, for the charset that it may
name; the others are left out. -/
structure Response where
  /-- What became of the request. -/
  status : Nat
  /-- The bytes of the body that arrived. -/
  body : List UInt8
  /-- Whether the body arrived as a whole. -/
  complete : Bool := true
  /-- The charset that the type of the content names, and UTF-8 if it names none that is known. -/
  charset : Text.Charset := .utf8

namespace Response

/-- Whether the request succeeded. -/
def isSuccess (response : Response) : Bool := 200 ≤ response.status && response.status < 300

/-- Whether responses with the status of this one have no body. -/
def isBare (response : Response) : Bool := response.status = 204 || response.status = 304

/-- The whole body, if it arrived. -/
def content? (response : Response) : Option (List UInt8) :=
  if response.isBare then some []
  else if response.complete then some response.body
  else none

/-- The text of a body that says what went wrong, read by its byte order mark or by its charset. -/
def complaint (response : Response) : String :=
  match response.content? with
  | some bytes => response.charset.read bytes
  | none => "unknown error"

end Response

end HealthLedger.Http
