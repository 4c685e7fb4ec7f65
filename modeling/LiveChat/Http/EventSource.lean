import LiveChat.Http.Message
import LiveChat.Stream.Endpoint
import LiveChat.Stream.Framing
import LiveChat.Url.Parser

/-!
The event stream of a server over HTTP: a request that stays open, and a body that is cut into
payloads.
-/

set_option autoImplicit false

namespace LiveChat.Http.EventSource

open LiveChat.Stream (StreamError Framer)

def request (origin : Url) (endpoint : Stream.Endpoint) : Except StreamError Request :=
  match origin.join endpoint.path with
  | .error fault => .error (.connect fault.message)
  | .ok url =>
      .ok
        { method := .get, url
          headers := [("accept", "text/event-stream"), ("cache-control", "no-cache")]
          body := none }

/-- The body to read payloads from. -/
def body : Reply → Except StreamError Body
  | .failed text => .error (.connect text)
  | .answered response =>
      if response.isSuccess then .ok response.body
      else .error (.connect ("server answered " ++ response.statusLine))

def broken : StreamError := .broken decodeFailed

/-- The payloads of a body in order, and an error at its end if it is broken. -/
def items (limit : Nat) (body : Body) : List (Except StreamError String) :=
  let (_, payloads) := (Framer.new limit).feed body.parts.flatten
  payloads.map .ok ++ (if body.broken then [.error broken] else [])

end LiveChat.Http.EventSource
