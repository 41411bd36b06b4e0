import HealthLedger.Http.Message

/-!
# Networks

A network takes a request to whoever answers it and brings back the response, or none if the
connection is refused or ends too early. Its state holds what the other side remembers.
-/

namespace HealthLedger.Http

/-- A network with states of type `σ`: the response to a request, and the state behind it. -/
structure Network (σ : Type) where
  /-- Send a request. -/
  exchange : Request → σ → Option Response × σ

namespace Network

/-- The network in which every connection is refused, so that no request is received. -/
def refusing {σ : Type} : Network σ := ⟨fun _ state => (none, state)⟩

/-- The response to a request that no script foresees. -/
def exhausted : Response where
  status := 500
  body := Text.Utf8.encode "script exhausted"

/-- The network with one server that answers by a script, the first request by its first entry and
so on; it remembers the requests it has received. An entry without a response ends the
connection. -/
def scripted (script : List (Option Response)) : Network (List Request) where
  exchange request received :=
    (script[received.length]?.getD (some exhausted), received ++ [request])

end Network

end HealthLedger.Http
