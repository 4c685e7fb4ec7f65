import LiveChat.Json.Reader
import LiveChat.Stream.Counters
import LiveChat.Stream.Event

/-!
Reading one payload of the stream. A payload over the limit is never parsed; what is parsed
is one JSON object that holds a valid event.
-/

set_option autoImplicit false

namespace LiveChat.Stream

def maxPayload : Nat := 64 * 1024

def Event.parse (limit : Nat) (payload : String) : Except Rejection Event :=
  if limit < payload.utf8ByteSize then .error .oversized
  else match Json.parse payload with
    | none => .error .malformed
    | some value =>
        if !value.isObject then .error .invalid
        else match Event.ofJson? value with
          | none => .error .invalid
          | some event => if event.valid then .ok event else .error .invalid

end LiveChat.Stream
